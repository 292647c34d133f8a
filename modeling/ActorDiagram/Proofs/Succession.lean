import Mathlib
import ActorDiagram.Proofs.Embedding
import ActorDiagram.Proofs.Partners

/-!
# One stream after another

Where the brackets of two lists of lexemes balance, they balance in both lists one after the other, and
each list is matched as on its own.
-/

namespace ActorDiagram

namespace Stream

variable {ts us vs : List Lexeme} {σ : Likeness}

/-- What comes after balanced brackets leaves their tokens and roles as they are. -/
lemma get?_append (h : (ofLexemes ts).problems = []) {i : Nat} (hi : i < ts.length) :
    (ofLexemes (ts ++ us)).get? i = (ofLexemes ts).get? i ∧
      (ofLexemes (ts ++ us)).roles[i]? = (ofLexemes ts).roles[i]? := by
  have hsize := BracketState.tokens_run_size ts
  obtain ⟨-, -, htokens, hroles⟩ := BracketState.foldl_step_frame us (BracketState.nested_run ts)
  unfold ofLexemes
  rw [BracketState.run_append]
  refine ⟨htokens i (by omega), hroles i (by omega) ?_⟩
  rw [stack_eq_nil_of_problems h]
  intro x hx
  cases hx

/-- Lexemes after balanced brackets are matched as if they stood alone. -/
theorem inStep_append (h : (ofLexemes ts).problems = []) (hus : List.Forall₂ (Lexeme.Alike σ) us vs) :
    BracketState.InStep σ (Embeds.At ts.length) (BracketState.run us) (BracketState.run (ts ++ vs)) := by
  have hsize := BracketState.tokens_run_size ts
  have hsize' := (BracketState.nested_run ts).size_eq
  rw [BracketState.run_append]
  refine BracketState.InStep.foldl ?_ hus ⟨?_, ?_, ?_, rfl, hsize'⟩ ?_
  · intro i j k l hij hkl
    unfold Embeds.At at hij hkl
    omega
  · rw [stack_eq_nil_of_problems h]
    exact .nil
  · rintro i _ rfl
    have hnone : (BracketState.run ts).tokens[i + ts.length]? = none :=
      Array.getElem?_eq_none (by omega)
    rw [hnone]
    exact .none
  · rintro i _ rfl
    have hnone : (BracketState.run ts).roles[i + ts.length]? = none :=
      Array.getElem?_eq_none (by omega)
    rw [hnone]
    exact .none
  · intro k _
    simp only [Embeds.At, hsize, show BracketState.init.tokens.size = 0 from rfl]
    omega

/-! ### Both parts in the whole -/

/-- Balanced brackets are read in a longer text as on their own. -/
theorem embeds_left (σ : Likeness) (h : (ofLexemes ts).problems = [])
    (hfirst : ∀ t, us.head? = some t → t.isIdentifier = true) (hplace : ∀ p, σ.place p p) :
    Embeds σ 0 (ofLexemes ts) (ofLexemes (ts ++ us)) := by
  refine ⟨nested_ofLexemes ts, h, ?_, ?_, ?_⟩
  · intro i t ht
    have hi := lt_of_get? ht
    refine ⟨t, ?_, ⟨rfl, fun _ => rfl, hplace _⟩, rfl⟩
    rw [Nat.add_zero, (get?_append h (by rwa [← size_ofLexemes ts])).1, ht]
  · intro i c hc
    have hi := (nested_ofLexemes ts).lt_closer hc
    rw [closer_eq_ok_iff] at hc ⊢
    rw [Nat.add_zero, Nat.add_zero,
      (get?_append h (by rw [← size_ofLexemes ts]; omega)).2, hc]
  · intro t ht
    rw [Nat.add_zero, size_ofLexemes] at ht
    cases us with
    | nil =>
      rw [get?_eq_none (by rw [List.append_nil, size_ofLexemes])] at ht
      cases ht
    | cons u us =>
      rw [get?_ofLexemes] at ht
      cases ht
      exact hfirst u rfl

/-- Balanced brackets are read after other balanced brackets as on their own. -/
theorem embeds_right (h : (ofLexemes ts).problems = []) (h' : (ofLexemes us).problems = [])
    (hus : List.Forall₂ (Lexeme.Alike σ) us vs) :
    Embeds σ ts.length (ofLexemes us) (ofLexemes (ts ++ vs)) := by
  have hstep := inStep_append h hus
  refine ⟨nested_ofLexemes us, h', ?_, ?_, ?_⟩
  · intro i t ht
    have htoken := hstep.token i _ rfl
    rw [show (BracketState.run us).tokens[i]? = some t from ht] at htoken
    exact exists_of_rel_some htoken
  · intro i c hc
    have hrole := hstep.role i _ rfl
    rw [show (BracketState.run us).roles[i]? = some (.opener c) from closer_eq_ok_iff.mp hc] at hrole
    obtain ⟨role, hrole, halike⟩ := exists_of_rel_some hrole
    cases halike with
    | opener hplace =>
      cases hplace
      exact closer_eq_ok_iff.mpr hrole
  · intro t ht
    rw [get?_eq_none (by rw [size_ofLexemes, size_ofLexemes, List.length_append, hus.length_eq]; omega)]
      at ht
    cases ht

lemma problem?_of_alike {R : Nat → Nat → Prop} {role role' : BracketRole} (h : role.Alike R role')
    {t t' : Token} (hnone : problem? t role = none) : problem? t' role' = none := by
  cases h with
  | plain | opener | closer => rfl
  | unclosed | unexpected => simp [problem?] at hnone

/-- Balanced brackets after balanced brackets are balanced. -/
theorem problems_append (h : (ofLexemes ts).problems = []) (h' : (ofLexemes us).problems = [])
    (hus : List.Forall₂ (Lexeme.Alike σ) us vs) : (ofLexemes (ts ++ vs)).problems = [] := by
  rw [problems_eq_nil_iff]
  intro i t role ht hrole
  by_cases hi : i < ts.length
  · rw [(get?_append h hi).1] at ht
    rw [(get?_append h hi).2] at hrole
    exact problems_eq_nil_iff.mp h i t role ht hrole
  · obtain ⟨j, rfl⟩ : ∃ j, i = j + ts.length := ⟨i - ts.length, by omega⟩
    have hstep := inStep_append h hus
    have hj : j < us.length := by
      have hlt := lt_of_get? ht
      rw [size_ofLexemes, List.length_append, ← hus.length_eq] at hlt
      omega
    have hget := get?_of_lt (s := ofLexemes us) (show j < (ofLexemes us).size by rwa [size_ofLexemes])
    have hsizes := (BracketState.nested_run us).size_eq
    have hroles := hstep.role j _ rfl
    cases hr : (BracketState.run us).roles[j]? with
    | none =>
      rw [Array.getElem?_eq_none_iff, hsizes, BracketState.tokens_run_size] at hr
      omega
    | some r =>
      rw [hr] at hroles
      obtain ⟨role', hrole', halike⟩ := exists_of_rel_some hroles
      rw [show (ofLexemes (ts ++ vs)).roles[j + ts.length]? = some role' from hrole'] at hrole
      cases hrole
      exact problem?_of_alike halike (problems_eq_nil_iff.mp h' j _ r hget hr)

end Stream

end ActorDiagram
