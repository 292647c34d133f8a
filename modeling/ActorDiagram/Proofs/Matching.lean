import Mathlib
import ActorDiagram.Proofs.Balanced
import ActorDiagram.Proofs.Results

/-!
# Matching in a stream

The pairs and depths of a stream, by what its words are: where the partner of a bracket stands, how
deep a token lies, and that a part of the text is matched alike wherever it stands.
-/

namespace ActorDiagram

/-- What some lexemes say. -/
def wordsOf (ts : List Lexeme) : List Word := ts.map Lexeme.word

/-! ### The matcher, lexeme by lexeme -/

namespace BracketState

lemma run_append (ts us : List Lexeme) : run (ts ++ us) = us.foldl step (run ts) :=
  List.foldl_append

lemma run_concat (ts : List Lexeme) (t : Lexeme) : run (ts ++ [t]) = (run ts).step t := by
  rw [run_append]
  rfl

section Move

variable {s s' : BracketState} {t : Lexeme}

lemma Move.stack (hmove : s.Move t s') :
    (t.word.isOpening = true ∧ s'.stack = (t.text, s.tokens.size) :: s.stack) ∨
      (t.word.isOpening = false ∧ s'.stack <:+ s.stack) := by
  cases hmove with
  | plain hplain =>
    simp only [Word.isPlain, Bool.and_eq_true, Bool.not_eq_true'] at hplain
    exact .inr ⟨hplain.1, List.suffix_refl _⟩
  | opening ho => exact .inl ⟨ho, rfl⟩
  | unexpected hc _ => exact .inr ⟨Word.isOpening_eq_false_of_closes? hc, List.suffix_refl _⟩
  | @closing above rest b i hc hs _ =>
    exact .inr ⟨Word.isOpening_eq_false_of_closes? hc, above ++ [(b, i)], by rw [hs]; simp; rfl⟩

lemma Move.mem_stack (hmove : s.Move t s') {x : String × Nat} (hx : x ∈ s'.stack) :
    x ∈ s.stack ∨ x.2 = s.tokens.size := by
  rcases hmove.stack with ⟨-, hstack⟩ | ⟨-, hsuffix⟩
  · rw [hstack] at hx
    rcases List.mem_cons.mp hx with rfl | hx
    · exact .inr rfl
    · exact .inl hx
  · exact .inl (hsuffix.subset hx)

/-- The lexeme becomes a token: an opening bracket at the depth before it, any other lexeme at the
depth after it. -/
lemma Move.tokens (hmove : s.Move t s') : s'.tokens = s.tokens.push
    ⟨t, if t.word.isOpening then s.stack.length else s'.stack.length⟩ := by
  cases hmove with
  | plain | unexpected => split_ifs <;> rfl
  | opening ho =>
    rw [if_pos ho]
    rfl
  | closing hc =>
    rw [if_neg (by simp [Word.isOpening_eq_false_of_closes? hc])]
    rfl

lemma Move.size_roles (hmove : s.Move t s') : s'.roles.size = s.roles.size + 1 := by
  cases hmove <;> simp [push, readOpener, BracketState.close]

lemma roles_close_of_ne {i j : Nat} (hi : i < s.roles.size) (hij : j ≠ i) (t : Lexeme)
    (rest : List (String × Nat)) : (s.close t j rest).roles[i]? = s.roles[i]? := by
  unfold BracketState.close
  rw [getElem?_push_roles, if_neg (by simp only [Array.size_setIfInBounds]; omega)]
  exact Array.getElem?_setIfInBounds_ne hij

/-- A step leaves all roles alone but that of the bracket that it closes. -/
lemma Move.roles (hmove : s.Move t s') {i : Nat} (hi : i < s.roles.size) :
    s'.roles[i]? = s.roles[i]? ∨
      ∃ above rest b, t.word.closes? = some b ∧ s.stack = above ++ (b, i) :: rest ∧ s'.stack = rest := by
  cases hmove with
  | plain | opening | unexpected => exact .inl ((getElem?_push_roles s t _ i).trans (if_neg (by omega)))
  | @closing above rest b j hc hs habove =>
    by_cases hij : j = i
    · subst hij
      exact .inr ⟨above, rest, b, hc, hs, rfl⟩
    · exact .inl (roles_close_of_ne hi hij t rest)

/-- Where the lexeme may stand after the brackets above, a step changes no others. -/
lemma Move.above (hmove : s.Move t s') {above under : List (String × Nat)} {o : List String}
    (hs : s.stack = above ++ under) (h : t.word.nest (above.map Prod.fst) = some o) :
    ∃ above', s'.stack = above' ++ under ∧ above'.map Prod.fst = o ∧
      (∀ x ∈ above', x ∈ above ∨ x.2 = s.tokens.size) ∧
      ∀ i < s.roles.size, (∀ x ∈ above, x.2 ≠ i) → s'.roles[i]? = s.roles[i]? := by
  have hpush : ∀ (role : BracketRole) (i : Nat), i < s.roles.size →
      (s.push t role).roles[i]? = s.roles[i]? := by
    intro role i hi
    rw [getElem?_push_roles, if_neg (by omega)]
  cases hmove with
  | plain hplain =>
    rw [Word.nest_of_isPlain hplain] at h
    cases h
    exact ⟨above, hs, rfl, fun x hx => .inl hx, fun i hi _ => hpush _ i hi⟩
  | opening ho =>
    rw [Word.nest_of_isOpening ho] at h
    cases h
    refine ⟨(t.text, s.tokens.size) :: above, ?_, rfl, ?_, fun i hi _ => hpush _ i hi⟩
    · rw [readOpener, hs]
      rfl
    · intro x hx
      rcases List.mem_cons.mp hx with rfl | hx
      · exact .inr rfl
      · exact .inl hx
  | @unexpected b hc hnone =>
    have hhead : (above.map Prod.fst).head? ≠ some b := by
      intro hb
      obtain ⟨x, hx, rfl⟩ := List.mem_map.mp (List.mem_of_head? hb)
      exact hnone x (by rw [hs]; exact List.mem_append_left _ hx) rfl
    rw [Word.nest_of_head?_ne hc hhead] at h
    cases h
  | @closing inside rest b j hc hs' hinside =>
    obtain ⟨x, above', rfl, hx⟩ : ∃ x above', above = x :: above' ∧ x.1 = b := by
      by_contra hnone
      rw [Word.nest_of_head?_ne hc] at h
      · cases h
      · intro hb
        obtain ⟨x, hx, hxb⟩ := Option.map_eq_some_iff.mp (List.head?_map.symm.trans hb)
        exact hnone ⟨x, above.tail, List.eq_cons_of_mem_head? hx, hxb⟩
    subst hx
    rw [List.map_cons, Word.nest_of_closes? hc] at h
    cases h
    -- The bracket on top is of the kind asked for, so none is given up.
    have hnil : inside = [] := by
      cases inside with
      | nil => rfl
      | cons y inside =>
        rw [hs, List.cons_append, List.cons_append, List.cons.injEq] at hs'
        exact absurd (congrArg Prod.fst hs'.1.symm) (hinside y List.mem_cons_self)
    subst hnil
    rw [hs, List.cons_append, List.nil_append, List.cons.injEq] at hs'
    obtain ⟨hx, rfl⟩ := hs'
    refine ⟨above', rfl, rfl, fun x hx => .inl (List.mem_cons_of_mem _ hx), ?_⟩
    intro i hi hopen
    have hne := hopen _ List.mem_cons_self
    rw [hx] at hne
    exact roles_close_of_ne hi hne t _

end Move

theorem tokens_step (s : BracketState) (t : Lexeme) :
    (s.step t).tokens = s.tokens.push
      ⟨t, if t.word.isOpening then s.stack.length else (s.step t).stack.length⟩ :=
  (s.move_step t).tokens

/-- Over more lexemes, what has been read stays: the tokens, and the roles of what is not open. -/
theorem foldl_step_frame (us : List Lexeme) {s : BracketState} (h : s.Nested) :
    (us.foldl step s).Nested ∧ (us.foldl step s).tokens.size = s.tokens.size + us.length ∧
    (∀ i, i < s.tokens.size → (us.foldl step s).tokens[i]? = s.tokens[i]?) ∧
    ∀ i, i < s.tokens.size → (∀ x ∈ s.stack, x.2 ≠ i) →
      (us.foldl step s).roles[i]? = s.roles[i]? := by
  induction us generalizing s with
  | nil => exact ⟨h, rfl, fun _ _ => rfl, fun _ _ _ => rfl⟩
  | cons t us ih =>
    have hmove := s.move_step t
    obtain ⟨hn, hsize, htokens, hroles⟩ := ih (h.step t)
    have hsize' : (s.step t).tokens.size = s.tokens.size + 1 := by
      rw [tokens_step, Array.size_push]
    refine ⟨hn, ?_, ?_, ?_⟩
    · rw [List.foldl_cons, hsize, hsize', List.length_cons]
      omega
    · intro i hi
      rw [List.foldl_cons, htokens i (by omega), tokens_step, Array.getElem?_push,
        if_neg (by omega)]
    · intro i hi hopen
      have hnow : (s.step t).roles[i]? = s.roles[i]? := by
        rcases hmove.roles (h.size_eq.symm ▸ hi) with hrole | ⟨above, rest, b, -, hs, -⟩
        · exact hrole
        · exact absurd rfl (hopen (b, i) (by rw [hs]; simp))
      rw [List.foldl_cons, hroles i (by omega), hnow]
      intro x hx
      rcases hmove.mem_stack hx with hx | hx
      · exact hopen x hx
      · omega

lemma tokens_run_size (ts : List Lexeme) : (run ts).tokens.size = ts.length := by
  have h := (foldl_step_frame ts nested_init).2.1
  rw [show init.tokens.size = 0 from rfl, Nat.zero_add] at h
  exact h

/-! ### Balanced parts -/

/-- Over words that open and close brackets among themselves, the brackets open below stay open and
keep their roles. -/
theorem stack_foldl_step {us : List Lexeme} {s : BracketState} {above under : List (String × Nat)}
    {opened : List String} (hs : s.stack = above ++ under)
    (h : openAfter (above.map Prod.fst) (wordsOf us) = some opened) :
    ∃ above', (us.foldl step s).stack = above' ++ under ∧ above'.map Prod.fst = opened ∧
      ∀ i, i < s.tokens.size → i < s.roles.size → (∀ x ∈ above, x.2 ≠ i) →
        (us.foldl step s).roles[i]? = s.roles[i]? := by
  induction us generalizing s above with
  | nil =>
    cases h
    exact ⟨above, hs, rfl, fun _ _ _ _ => rfl⟩
  | cons t us ih =>
    rw [wordsOf, List.map_cons, openAfter_cons] at h
    obtain ⟨o, hw, h⟩ := Option.bind_eq_some_iff.mp h
    have hmove := s.move_step t
    obtain ⟨above₁, hstack, rfl, hmem, hroles⟩ := hmove.above hs hw
    obtain ⟨above', hstack', hfst, hroles'⟩ := ih hstack h
    refine ⟨above', hstack', hfst, ?_⟩
    intro i hi hi' hopen
    rw [List.foldl_cons, hroles' i (by rw [tokens_step, Array.size_push]; omega)
      (by rw [hmove.size_roles]; omega), hroles i hi' hopen]
    intro x hx
    rcases hmem x hx with hx | hx
    · exact hopen x hx
    · omega

/-- Balanced words leave the open brackets as they were, and the roles of all before. -/
theorem stack_foldl_step_of_balanced {us : List Lexeme} {s : BracketState}
    (h : Balanced (wordsOf us)) : (us.foldl step s).stack = s.stack ∧
      ∀ i, i < s.tokens.size → i < s.roles.size →
        (us.foldl step s).roles[i]? = s.roles[i]? := by
  have hnil : s.stack = [] ++ s.stack := rfl
  obtain ⟨above', hstack, habove, hroles⟩ := stack_foldl_step hnil h
  rw [List.map_eq_nil_iff] at habove
  rw [habove] at hstack
  exact ⟨hstack, fun i hi hi' => hroles i hi hi' (by simp)⟩

end BracketState

/-! ### Tokens and pairs of a stream -/

/-- Number of brackets open after some lexemes. -/
def levelAfter (ts : List Lexeme) : Nat := (BracketState.run ts).stack.length

/-- Words that open and close brackets among themselves raise the level by what they leave open. -/
theorem levelAfter_append {ts us : List Lexeme} {opened : List String}
    (h : openAfter [] (wordsOf us) = some opened) :
    levelAfter (ts ++ us) = levelAfter ts + opened.length := by
  have hnil : (BracketState.run ts).stack = [] ++ (BracketState.run ts).stack := rfl
  obtain ⟨above, hstack, habove, -⟩ := BracketState.stack_foldl_step hnil h
  unfold levelAfter
  rw [BracketState.run_append, hstack, ← habove, List.length_append, List.length_map]
  omega

namespace Stream

theorem get?_ofLexemes (ts us : List Lexeme) (t : Lexeme) :
    (ofLexemes (ts ++ t :: us)).get? ts.length = some
      ⟨t, if t.word.isOpening then levelAfter ts else levelAfter (ts ++ [t])⟩ := by
  have hrun : BracketState.run (ts ++ t :: us) = us.foldl BracketState.step
      ((BracketState.run ts).step t) := by
    rw [BracketState.run_append, List.foldl_cons]
  have hsize := BracketState.tokens_run_size ts
  have htokens := BracketState.tokens_step (BracketState.run ts) t
  change (BracketState.run (ts ++ t :: us)).tokens[ts.length]? = _
  rw [hrun, (BracketState.foldl_step_frame us ((BracketState.nested_run ts).step t)).2.2.1 _
    (by rw [htokens, Array.size_push]; omega), htokens, Array.getElem?_push, hsize, if_pos rfl,
    levelAfter, levelAfter, BracketState.run_concat]

/-- A bracket around balanced words is closed by the bracket after them. -/
theorem closer_ofLexemes {ts inner us : List Lexeme} {o c : Lexeme}
    (ho : o.word.isOpening = true) (hc : c.word.closes? = some o.text)
    (h : Balanced (wordsOf inner)) :
    (ofLexemes (ts ++ o :: (inner ++ c :: us))).closer ts.length =
      .ok (ts.length + 1 + inner.length) := by
  let s := BracketState.run ts
  let s₁ := s.step o
  let s₂ := inner.foldl BracketState.step s₁
  have hs : s.Nested := BracketState.nested_run ts
  have hs₁ : s₁ = s.readOpener o := by rw [show s₁ = s.step o from rfl, BracketState.step_eq, if_pos ho]
  have hstack : s₂.stack = (o.text, ts.length) :: s.stack := by
    rw [show s₂ = inner.foldl BracketState.step s₁ from rfl,
      (BracketState.stack_foldl_step_of_balanced h).1, hs₁, BracketState.readOpener,
      BracketState.tokens_run_size ts]
  obtain ⟨hs₂, hsize₂, -, -⟩ := BracketState.foldl_step_frame inner (hs.step o)
  have hsize : s₂.tokens.size = ts.length + 1 + inner.length := by
    rw [hsize₂, BracketState.tokens_step, Array.size_push, BracketState.tokens_run_size]
  have hstep : s₂.step c = s₂.close c ts.length s.stack := by
    have hclosed := Word.isOpening_eq_false_of_closes? hc
    have hdrop : s₂.stack.dropWhile (·.1 != o.text) = (o.text, ts.length) :: s.stack := by
      rw [hstack, List.dropWhile_cons_of_neg (by simp)]
    rw [BracketState.step_eq, if_neg (by simp [hclosed]), hc]
    exact BracketState.readCloser_of_dropWhile hdrop
  have hopen : ∀ x ∈ s.stack, x.2 ≠ ts.length := by
    intro x hx
    obtain ⟨u, v, huv⟩ := List.append_of_mem hx
    have hlt := hs.open_lt u x.1 x.2 v huv
    rw [BracketState.tokens_run_size] at hlt
    omega
  have hrun : BracketState.run (ts ++ o :: (inner ++ c :: us)) =
      us.foldl BracketState.step (s₂.step c) := by
    rw [BracketState.run_append, List.foldl_cons, List.foldl_append, List.foldl_cons]
  rw [closer_eq_ok_iff]
  change (BracketState.run (ts ++ o :: (inner ++ c :: us))).roles[ts.length]? = _
  have hs₂ : s₂.Nested := hs₂
  rw [hrun, (BracketState.foldl_step_frame us (hs₂.step c)).2.2.2 _ ?_ ?_, hstep,
    hs₂.roles_close (by omega), if_neg (by omega), if_pos rfl, hsize]
  · have hsize' : (s₂.step c).tokens.size = s₂.tokens.size + 1 := by
      rw [BracketState.tokens_step, Array.size_push]
    change ts.length < (s₂.step c).tokens.size
    omega
  · rw [hstep]
    exact hopen

lemma problems_eq_nil_iff {s : Stream} : s.problems = [] ↔
    ∀ i t role, s.get? i = some t → s.roles[i]? = some role → problem? t role = none := by
  rw [problems, List.filterMap_eq_nil_iff]
  constructor
  · intro h i t role ht hrole
    refine h (t, role) (List.mem_of_getElem? (i := i) ?_)
    have ht : s.tokens[i]? = some t := ht
    rw [List.getElem?_zip_eq_some]
    simp [ht, hrole]
  · rintro h ⟨t, role⟩ hmem
    obtain ⟨i, hi⟩ := List.mem_iff_getElem?.mp hmem
    rw [List.getElem?_zip_eq_some, Array.getElem?_toList, Array.getElem?_toList] at hi
    exact h i t role hi.1 hi.2

/-- The brackets of a stream are nested, whatever is left open at its end. -/
def Nested (s : Stream) : Prop :=
  ∃ stack, BracketState.Nested ⟨stack, s.tokens, s.roles⟩

lemma size_ofLexemes (ts : List Lexeme) : (ofLexemes ts).size = ts.length :=
  BracketState.tokens_run_size ts

theorem nested_ofLexemes (ts : List Lexeme) : (ofLexemes ts).Nested :=
  ⟨(BracketState.run ts).stack, BracketState.nested_run ts⟩

theorem nested_ofText {s : Stream} {text : String} (h : ofText text = .ok s) : s.Nested := by
  obtain ⟨ts, -, rfl⟩ := map_eq_ok_iff.mp h
  exact nested_ofLexemes ts

namespace Nested

variable {s : Stream} {i c k : Nat} {t t' : Token}

theorem lt_closer (h : s.Nested) (hc : s.closer i = .ok c) : i < c ∧ c < s.size := by
  obtain ⟨stack, h⟩ := h
  exact h.pair_lt i c (closer_eq_ok_iff.mp hc)

theorem depth_closer (h : s.Nested) (hc : s.closer i = .ok c) (ht : s.get? i = some t)
    (ht' : s.get? c = some t') : t'.depth = t.depth ∧ t'.word.closes? = some t.text := by
  obtain ⟨stack, h⟩ := h
  exact h.pair_token i c t t' (closer_eq_ok_iff.mp hc) ht ht'

lemma isSome_closes? (h : s.Nested) (hc : s.closer i = .ok c) (ht : s.get? i = some t)
    (ht' : s.get? c = some t') : t'.word.closes?.isSome = true :=
  Option.isSome_of_eq_some (h.depth_closer hc ht ht').2

lemma ne_closer_of_isOpening (h : s.Nested) (hc : s.closer i = .ok c) (ht : s.get? k = some t)
    (hopening : t.word.isOpening = true) : k ≠ c := by
  rintro rfl
  have hcloses := h.isSome_closes? hc (get?_of_lt ((h.lt_closer hc).1.trans (h.lt_closer hc).2)) ht
  rw [Word.closes?_eq_none_of_isOpening hopening] at hcloses
  cases hcloses

lemma ne_closer_of_name (h : s.Nested) (hc : s.closer i = .ok c) (ht : s.get? k = some t)
    (hname : (t.isMark "." || t.isIdentifier) = true) : k ≠ c := by
  rintro rfl
  have hcloses := h.isSome_closes? hc (get?_of_lt ((h.lt_closer hc).1.trans (h.lt_closer hc).2)) ht
  rw [Lexeme.not_name_of_closes? hcloses] at hname
  cases hname

theorem depth_lt_between (h : s.Nested) (hc : s.closer i = .ok c) (ht : s.get? i = some t)
    (hik : i < k) (hkc : k < c) (ht' : s.get? k = some t') : t.depth < t'.depth := by
  obtain ⟨stack, h⟩ := h
  exact h.pair_between i c t k t' (closer_eq_ok_iff.mp hc) ht hik hkc ht'

theorem closes_of_depth_lt (h : s.Nested) (ht : s.get? k = some t)
    (ht' : s.get? (k + 1) = some t') (hd : t'.depth < t.depth) : t'.word.closes?.isSome := by
  obtain ⟨stack, h⟩ := h
  exact h.drop k t t' ht ht' hd

/-- Pairs do not cross. -/
theorem closer_lt_closer (h : s.Nested) (hc : s.closer i = .ok c) (hik : i < k) (hkc : k < c)
    {c' : Nat} (hc' : s.closer k = .ok c') : c' < c := by
  have get_of_lt : ∀ {j}, j < s.size → ∃ u, s.get? j = some u := fun hj => ⟨_, get?_of_lt hj⟩
  obtain ⟨hic, hcs⟩ := h.lt_closer hc
  obtain ⟨hkc', hcs'⟩ := h.lt_closer hc'
  obtain ⟨ti, hti⟩ := get_of_lt (show i < s.size by omega)
  obtain ⟨tk, htk⟩ := get_of_lt (show k < s.size by omega)
  obtain ⟨tc, htc⟩ := get_of_lt hcs
  obtain ⟨tc', htc'⟩ := get_of_lt hcs'
  have hik' := h.depth_lt_between hc hti hik hkc htk
  have heq := (h.depth_closer hc hti htc).1
  have heq' := (h.depth_closer hc' htk htc').1
  rcases Nat.lt_trichotomy c' c with hlt | hceq | hgt
  · exact hlt
  · subst hceq
    rw [htc] at htc'
    cases htc'
    omega
  · have := h.depth_lt_between hc' htk hkc hgt htc
    omega

/-- Where brackets balance, every opening one has a partner. -/
theorem exists_closer (h : s.Nested) (hbalance : s.problems = []) (ht : s.get? i = some t)
    (hopening : t.word.isOpening = true) : ∃ c, s.closer i = .ok c := by
  obtain ⟨stack, h⟩ := h
  rcases h.opening_role i t ht hopening with hr | ⟨c, hr⟩
  · exact absurd (problems_eq_nil_iff.mp hbalance i t _ ht hr) (by simp [problem?])
  · exact ⟨c, closer_eq_ok_iff.mpr hr⟩

end Nested

end Stream

end ActorDiagram
