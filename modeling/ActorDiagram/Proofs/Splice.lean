import Mathlib
import ActorDiagram.Proofs.Likeness
import ActorDiagram.Proofs.Matching

/-!
# Spliced streams

Two lists of lexemes that differ in one part, with brackets that balance on both sides, are matched
in step: what stands around the part is paired alike and lies equally deep.
-/

namespace ActorDiagram

/-! ### Streams in step -/

/-- Roles that point at corresponding tokens. -/
inductive BracketRole.Alike (R : Nat → Nat → Prop) : BracketRole → BracketRole → Prop
  | plain : Alike R .plain .plain
  | opener {c c' : Nat} (h : R c c') : Alike R (.opener c) (.opener c')
  | closer {o o' : Nat} (h : R o o') : Alike R (.closer o) (.closer o')
  | unclosed : Alike R .unclosed .unclosed
  | unexpected : Alike R .unexpected .unexpected

/-- Corresponding indices are in the same order. -/
def InOrder (R : Nat → Nat → Prop) : Prop := ∀ i j k l, R i j → R k l → (i < k ↔ j < l)

lemma InOrder.eq_iff {R : Nat → Nat → Prop} (h : InOrder R) {i j k l : Nat} (hij : R i j)
    (hkl : R k l) : i = k ↔ j = l := by
  have hlt := h i j k l hij hkl
  have hgt := h k l i j hkl hij
  omega

namespace BracketState

/-- Two matchers that have read alike tokens at corresponding indices, with corresponding brackets
open. -/
structure InStep (σ : Likeness) (R : Nat → Nat → Prop) (s s' : BracketState) : Prop where
  stack : List.Forall₂ (fun x y => x.1 = y.1 ∧ R x.2 y.2) s.stack s'.stack
  token : ∀ i j, R i j → Option.Rel (Token.Alike σ 0 0) s.tokens[i]? s'.tokens[j]?
  role : ∀ i j, R i j → Option.Rel (BracketRole.Alike R) s.roles[i]? s'.roles[j]?
  size_eq : s.roles.size = s.tokens.size
  size_eq' : s'.roles.size = s'.tokens.size

variable {σ : Likeness} {R : Nat → Nat → Prop} {s s' : BracketState} {t t' : Lexeme}

lemma InStep.push (h : InStep σ R s s') (hR : InOrder R) (hsize : R s.tokens.size s'.tokens.size)
    (ht : t.Alike σ t') {role role' : BracketRole} (hrole : role.Alike R role') :
    InStep σ R (s.push t role) (s'.push t' role') where
  stack := h.stack
  token i j hij := by
    rw [getElem?_push_tokens, getElem?_push_tokens]
    by_cases hi : i = s.tokens.size
    · rw [if_pos hi, if_pos ((hR.eq_iff hij hsize).mp hi)]
      refine .some ⟨ht, ?_⟩
      simpa using h.stack.length_eq
    · rw [if_neg hi, if_neg (fun hj => hi ((hR.eq_iff hij hsize).mpr hj))]
      exact h.token i j hij
  role i j hij := by
    rw [getElem?_push_roles, getElem?_push_roles, h.size_eq, h.size_eq']
    by_cases hi : i = s.tokens.size
    · rw [if_pos hi, if_pos ((hR.eq_iff hij hsize).mp hi)]
      exact .some hrole
    · rw [if_neg hi, if_neg (fun hj => hi ((hR.eq_iff hij hsize).mpr hj))]
      exact h.role i j hij
  size_eq := by simp [BracketState.push, h.size_eq]
  size_eq' := by simp [BracketState.push, h.size_eq']

lemma dropWhile_of_forall₂ {wanted : String} {u v : List (String × Nat)}
    (h : List.Forall₂ (fun x y => x.1 = y.1 ∧ R x.2 y.2) u v) :
    List.Forall₂ (fun x y => x.1 = y.1 ∧ R x.2 y.2) (u.dropWhile (·.1 != wanted))
      (v.dropWhile (·.1 != wanted)) := by
  induction h with
  | nil => exact .nil
  | @cons x y u v hxy hrest ih =>
    rw [List.dropWhile_cons, List.dropWhile_cons, hxy.1]
    split_ifs
    · exact ih
    · exact .cons hxy hrest

lemma InStep.close (h : InStep σ R s s') (hR : InOrder R) (hsize : R s.tokens.size s'.tokens.size)
    {k l : Nat} (hkl : R k l) {rest rest' : List (String × Nat)}
    (hrest : List.Forall₂ (fun x y => x.1 = y.1 ∧ R x.2 y.2) rest rest') :
    InStep σ R
      { s with stack := rest, roles := s.roles.setIfInBounds k (.opener s.tokens.size) }
      { s' with stack := rest', roles := s'.roles.setIfInBounds l (.opener s'.tokens.size) } where
  stack := hrest
  token := h.token
  size_eq := by simp [h.size_eq]
  size_eq' := by simp [h.size_eq']
  role i j hij := by
    simp only [Array.getElem?_setIfInBounds]
    by_cases hi : k = i
    · rw [if_pos hi, if_pos ((hR.eq_iff hkl hij).mp hi), h.size_eq, h.size_eq']
      by_cases hk : k < s.tokens.size
      · rw [if_pos hk, if_pos ((hR _ _ _ _ hkl hsize).mp hk)]
        exact .some (.opener hsize)
      · rw [if_neg hk, if_neg (fun hl => hk ((hR _ _ _ _ hkl hsize).mpr hl))]
        exact .none
    · rw [if_neg hi, if_neg (fun hj => hi ((hR.eq_iff hkl hij).mpr hj))]
      exact h.role i j hij

/-- Alike lexemes keep two matchers in step. -/
theorem InStep.step (h : InStep σ R s s') (hR : InOrder R) (hsize : R s.tokens.size s'.tokens.size)
    (ht : t.Alike σ t') : InStep σ R (s.step t) (s'.step t') := by
  rw [step_eq, step_eq, ht.isOpening, ht.closes?]
  by_cases ho : t'.word.isOpening = true
  · rw [if_pos ho, if_pos ho]
    have hpush := h.push hR hsize ht .unclosed
    have htext : t.text = t'.text := by
      rw [← ht.isOpening] at ho
      simp only [Word.isOpening, Bool.and_eq_true, beq_iff_eq] at ho
      exact ht.text_of_kind ho.1 rfl
    exact ⟨.cons ⟨htext, hsize⟩ h.stack, hpush.token, hpush.role, hpush.size_eq, hpush.size_eq'⟩
  · rw [if_neg ho, if_neg ho]
    cases t'.word.closes? with
    | none => exact h.push hR hsize ht .plain
    | some wanted =>
      have hdrop := @dropWhile_of_forall₂ R wanted _ _ h.stack
      simp only
      cases hu : s.stack.dropWhile (·.1 != wanted) with
      | nil =>
        rw [hu] at hdrop
        have hv := List.forall₂_nil_left_iff.mp hdrop
        unfold readCloser
        rw [hu, hv]
        exact h.push hR hsize ht .unexpected
      | cons x rest =>
        rw [hu] at hdrop
        obtain ⟨y, rest', hxy, hrest, hv⟩ := List.forall₂_cons_left_iff.mp hdrop
        rw [readCloser_of_dropWhile hu, readCloser_of_dropWhile hv]
        exact (h.close hR hsize hxy.2 hrest).push hR hsize ht (.closer hxy.2)

theorem InStep.foldl {us us' : List Lexeme} (hR : InOrder R)
    (hus : List.Forall₂ (Lexeme.Alike σ) us us') (h : InStep σ R s s')
    (hsize : ∀ k < us.length, R (s.tokens.size + k) (s'.tokens.size + k)) :
    InStep σ R (us.foldl BracketState.step s) (us'.foldl BracketState.step s') := by
  induction hus generalizing s s' with
  | nil => exact h
  | @cons t t' us us' ht _ ih =>
    have hnow : R s.tokens.size s'.tokens.size := hsize 0 (by simp)
    refine ih (h.step hR hnow ht) ?_
    intro k hk
    have hk' := hsize (k + 1) (by simpa using hk)
    rw [tokens_step, tokens_step, Array.size_push, Array.size_push, Nat.add_assoc, Nat.add_assoc,
      Nat.add_comm 1 k]
    exact hk'

/-- Balanced parts that nothing corresponds to keep two matchers in step. -/
theorem InStep.skip {m m' : List Lexeme} (h : InStep σ R s s') (hs : s.Nested) (hs' : s'.Nested)
    (hm : Balanced (wordsOf m)) (hm' : Balanced (wordsOf m'))
    (hskip : ∀ i j, R i j → (i < s.tokens.size ∧ j < s'.tokens.size) ∨
      (s.tokens.size + m.length ≤ i ∧ s'.tokens.size + m'.length ≤ j)) :
    InStep σ R (m.foldl BracketState.step s) (m'.foldl BracketState.step s') := by
  obtain ⟨hstack, hroles⟩ := stack_foldl_step_of_balanced (s := s) hm
  obtain ⟨hstack', hroles'⟩ := stack_foldl_step_of_balanced (s := s') hm'
  obtain ⟨hnested, hsize, htokens, -⟩ := foldl_step_frame m hs
  obtain ⟨hnested', hsize', htokens', -⟩ := foldl_step_frame m' hs'
  refine ⟨?_, ?_, ?_, hnested.size_eq, hnested'.size_eq⟩
  · rw [hstack, hstack']
    exact h.stack
  · intro i j hij
    rcases hskip i j hij with ⟨hi, hj⟩ | ⟨hi, hj⟩
    · rw [htokens i hi, htokens' j hj]
      exact h.token i j hij
    · rw [Array.getElem?_eq_none (by omega), Array.getElem?_eq_none (by omega)]
      exact .none
  · intro i j hij
    have hroleSize := hnested.size_eq
    have hroleSize' := hnested'.size_eq
    rcases hskip i j hij with ⟨hi, hj⟩ | ⟨hi, hj⟩
    · rw [hroles i hi (by rw [h.size_eq]; exact hi), hroles' j hj (by rw [h.size_eq']; exact hj)]
      exact h.role i j hij
    · rw [Array.getElem?_eq_none (by omega), Array.getElem?_eq_none (by omega)]
      exact .none

end BracketState

/-! ### Splices -/

/-- Corresponding indices when, after `n` tokens, `m` tokens stand in place of `m'` others. -/
def Spliced (n m m' i j : Nat) : Prop := (i = j ∧ i < n) ∨ (n + m ≤ i ∧ i + m' = j + m)

lemma inOrder_spliced (n m m' : Nat) : InOrder (Spliced n m m') := by
  intro i j k l hij hkl
  unfold Spliced at hij hkl
  omega

/-- Matching is in step around a balanced part that is replaced by another. -/
theorem BracketState.inStep_of_splice {σ : Likeness} {u u' m m' v v' : List Lexeme}
    (hu : List.Forall₂ (Lexeme.Alike σ) u u') (hm : Balanced (wordsOf m))
    (hm' : Balanced (wordsOf m')) (hv : List.Forall₂ (Lexeme.Alike σ) v v') :
    InStep σ (Spliced u.length m.length m'.length) (run (u ++ (m ++ v)))
      (run (u' ++ (m' ++ v'))) := by
  have hR := inOrder_spliced u.length m.length m'.length
  have hlen := hu.length_eq
  have hinit : InStep σ (Spliced u.length m.length m'.length) init init :=
    ⟨.nil, fun _ _ _ => .none, fun _ _ _ => .none, rfl, rfl⟩
  have hprefix := hinit.foldl hR hu (by
    intro k hk
    exact .inl ⟨rfl, by simpa [init] using hk⟩)
  have hskip := hprefix.skip (nested_run u) (nested_run u') hm hm' (by
    intro i j hij
    have hsize := tokens_run_size u
    have hsize' := tokens_run_size u'
    change (i < (run u).tokens.size ∧ j < (run u').tokens.size) ∨
      ((run u).tokens.size + m.length ≤ i ∧ (run u').tokens.size + m'.length ≤ j)
    unfold Spliced at hij
    omega)
  have hsize := (foldl_step_frame m (nested_run u)).2.1
  have hsize' := (foldl_step_frame m' (nested_run u')).2.1
  rw [tokens_run_size] at hsize hsize'
  rw [run_append, run_append, List.foldl_append, List.foldl_append]
  refine hskip.foldl hR hv ?_
  intro k _
  rw [hsize, hsize']
  unfold Spliced
  omega

namespace Stream

/-- Two streams that are alike at corresponding indices, up to the arrow after which they differ. -/
structure Lockstep (σ : Likeness) (R : Nat → Nat → Prop) (s s' : Stream) : Prop where
  nested : s.Nested
  nested' : s'.Nested
  inOrder : InOrder R
  get : ∀ i j, R i j → Option.Rel (Token.Alike σ 0 0) (s.get? i) (s'.get? j)
  role : ∀ i j, R i j → Option.Rel (BracketRole.Alike R) s.roles[i]? s'.roles[j]?
  next : ∀ i j t, R i j → s.get? i = some t → t.isOperator "=>" = true ∨ R (i + 1) (j + 1)

/-- Streams that differ in a balanced part after an arrow are in lockstep around it. -/
theorem lockstep_of_splice {σ : Likeness} {u u' m m' v v' : List Lexeme}
    (hu : List.Forall₂ (Lexeme.Alike σ) u u') (hm : Balanced (wordsOf m))
    (hm' : Balanced (wordsOf m')) (hv : List.Forall₂ (Lexeme.Alike σ) v v')
    (harrow : (m = [] ∧ m' = []) ∨ ∃ t, u.getLast? = some t ∧ t.isOperator "=>" = true) :
    Lockstep σ (Spliced u.length m.length m'.length) (ofLexemes (u ++ (m ++ v)))
      (ofLexemes (u' ++ (m' ++ v'))) := by
  have h := BracketState.inStep_of_splice hu hm hm' hv
  refine ⟨nested_ofLexemes _, nested_ofLexemes _, inOrder_spliced _ _ _, h.token, h.role, ?_⟩
  intro i j t hij ht
  rcases harrow with ⟨rfl, rfl⟩ | ⟨a, ha, harrow⟩
  · right
    simp only [Spliced, List.length_nil] at hij ⊢
    omega
  · by_cases hi : i + 1 = u.length
    · left
      obtain ⟨u₀, rfl⟩ := List.getLast?_eq_some_iff.mp ha
      obtain rfl : i = u₀.length := by simpa using hi
      rw [List.append_assoc, List.singleton_append, get?_ofLexemes] at ht
      cases ht
      exact harrow
    · right
      simp only [Spliced] at hij ⊢
      omega

end Stream

end ActorDiagram
