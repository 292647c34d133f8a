import Mathlib
import ActorDiagram.Proofs.Matching

/-!
# Partners

What the roles of brackets say after any lexemes: what is open has no partner yet, every role fits its
token, and partners name each other.
-/

namespace ActorDiagram

/-- What a token can be that plays this role. -/
def BracketRole.Fits (w : Word) : BracketRole → Prop
  | .plain => w.isPlain = true
  | .opener _ | .unclosed => w.isOpening = true
  | .closer _ | .unexpected => w.closes?.isSome = true

namespace BracketState

variable {s s' : BracketState} {t : Lexeme}

/-! ### Open brackets -/

lemma Nested.ne_of_mem_rest (h : s.Nested) {u rest : List (String × Nat)} {b : String}
    {i : Nat} (hs : s.stack = u ++ (b, i) :: rest) {x : String × Nat} (hx : x ∈ rest) : x.2 ≠ i := by
  obtain ⟨v, w, rfl⟩ := List.append_of_mem hx
  have hsplit : s.stack = (u ++ (b, i) :: v) ++ (x.1, x.2) :: w := by
    rw [hs, List.append_assoc, List.cons_append]
  have hi := h.open_lt _ b i _ hs
  have ht : s.tokens[i]? = some s.tokens[i] := Array.getElem?_eq_getElem hi
  have hdepth := (h.open_token _ b i _ _ hs ht).1
  rintro rfl
  have hdepth' := (h.open_token _ _ _ _ _ hsplit ht).1
  rw [hdepth', List.length_append, List.length_cons] at hdepth
  omega

lemma push_unclosed {i : Nat} (h : s.roles[i]? = some .unclosed) (t : Lexeme)
    (role : BracketRole) : (s.push t role).roles[i]? = some .unclosed := by
  have hi := (Array.getElem?_eq_some_iff.mp h).1
  rw [getElem?_push_roles, if_neg (by omega), h]

/-- A bracket that is open has no partner yet. -/
theorem Nested.unclosed_move (h : s.Nested) (hopen : ∀ x ∈ s.stack, s.roles[x.2]? = some .unclosed)
    (hmove : s.Move t s') : ∀ x ∈ s'.stack, s'.roles[x.2]? = some .unclosed := by
  intro x hx
  cases hmove with
  | plain | unexpected => exact push_unclosed (hopen x hx) t _
  | opening =>
    rcases List.mem_cons.mp hx with rfl | hx
    · exact (h.roles_push t .unclosed _).trans (if_pos rfl)
    · exact push_unclosed (hopen x hx) t _
  | closing hc hs =>
    have hrole := hopen x (by rw [hs]; exact List.mem_append_right _ (List.mem_cons_of_mem _ hx))
    have hlt := (Array.getElem?_eq_some_iff.mp hrole).1
    rw [roles_close_of_ne hlt (h.ne_of_mem_rest hs hx).symm, hrole]

theorem unclosed_of_mem_stack (ts : List Lexeme) :
    ∀ x ∈ (run ts).stack, (run ts).roles[x.2]? = some .unclosed := by
  induction ts using List.reverseRecOn with
  | nil =>
    intro x hx
    cases hx
  | append_singleton ts t ih =>
    rw [run_concat]
    exact (nested_run ts).unclosed_move ih (move_step _ t)

/-! ### Roles -/

/-- Roles fit the tokens, and partners name each other. -/
structure Paired (s : BracketState) : Prop where
  fits : ∀ (i : Nat) (t : Token) (r : BracketRole), s.tokens[i]? = some t → s.roles[i]? = some r →
    r.Fits t.word
  partner : ∀ i c : Nat, s.roles[c]? = some (.closer i) ↔ s.roles[i]? = some (.opener c)

lemma Paired.push (hp : s.Paired) (h : s.Nested) {role : BracketRole} (hfits : role.Fits t.word)
    (hopener : ∀ c, role ≠ .opener c) (hcloser : ∀ i, role ≠ .closer i) : (s.push t role).Paired where
  fits i u r hu hr := by
    rw [getElem?_push_tokens] at hu
    rw [h.roles_push] at hr
    split_ifs at hu hr with hi
    · cases hu
      cases hr
      exact hfits
    · exact hp.fits i u r hu hr
  partner i c := by
    have hnone := h.getElem?_size
    have hlt : s.roles[i]? = some (.opener c) → c < s.tokens.size := fun hr => (h.pair_lt i c hr).2
    have hpartner := hp.partner i c
    rw [h.roles_push, h.roles_push]
    grind

lemma Paired.close (hp : s.Paired) (h : s.Nested) {above rest : List (String × Nat)} {b : String} {i : Nat}
    (hs : s.stack = above ++ (b, i) :: rest) (hopen : s.roles[i]? = some .unclosed)
    (hc : t.word.closes? = some b) : (s.close t i rest).Paired := by
  have hi := h.open_lt above b i rest hs
  constructor
  · intro j u r hu hr
    rw [h.roles_close hi] at hr
    unfold BracketState.close at hu
    rw [getElem?_push_tokens] at hu
    split_ifs at hu hr with hj hji
    · cases hu
      cases hr
      exact Option.isSome_of_eq_some hc
    · cases hr
      subst hji
      exact (h.open_token above b j rest u hs hu).2.2
    · exact hp.fits j u r hu hr
  · intro j d
    have hnone := h.getElem?_size
    have hlt : s.roles[j]? = some (.opener d) → d < s.tokens.size := fun hr => (h.pair_lt j d hr).2
    have hpartner := hp.partner j d
    rw [h.roles_close hi, h.roles_close hi]
    grind

theorem Paired.move (hp : s.Paired) (h : s.Nested) (hopen : ∀ x ∈ s.stack, s.roles[x.2]? = some .unclosed)
    (hmove : s.Move t s') : s'.Paired := by
  cases hmove with
  | plain hplain => exact hp.push h hplain (by simp) (by simp)
  | opening ho =>
    have hpush : (s.push t .unclosed).Paired := hp.push h ho (by simp) (by simp)
    exact ⟨hpush.fits, hpush.partner⟩
  | unexpected hc _ => exact hp.push h (Option.isSome_of_eq_some hc) (by simp) (by simp)
  | @closing above rest b i hc hs _ => exact hp.close h hs (hopen (b, i) (by rw [hs]; simp)) hc

theorem paired_run (ts : List Lexeme) : (run ts).Paired := by
  induction ts using List.reverseRecOn with
  | nil => constructor <;> simp [run, init]
  | append_singleton ts t ih =>
    rw [run_concat]
    exact ih.move (nested_run ts) (unclosed_of_mem_stack ts) (move_step _ t)

end BracketState

/-- Where all brackets have a partner, none is left open. -/
theorem Stream.stack_eq_nil_of_problems {ts : List Lexeme} (h : (Stream.ofLexemes ts).problems = []) :
    (BracketState.run ts).stack = [] := by
  rw [List.eq_nil_iff_forall_not_mem]
  intro x hx
  have hrole := BracketState.unclosed_of_mem_stack ts x hx
  have hi : x.2 < (Stream.ofLexemes ts).size := by
    have hlt := (Array.getElem?_eq_some_iff.mp hrole).1
    rwa [(BracketState.nested_run ts).size_eq] at hlt
  have hnone := Stream.problems_eq_nil_iff.mp h _ _ _ (Stream.get?_of_lt hi) hrole
  simp [Stream.problem?] at hnone

end ActorDiagram
