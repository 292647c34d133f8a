import Mathlib
import ActorDiagram.Proofs.Nesting

/-!
# Balanced words

A list of words is balanced when every bracket in it finds its partner in it. The matcher reads such
a list without touching what was open before, so its pairs and depths do not depend on what stands
around it.
-/

namespace ActorDiagram

/-! ### Balance -/

/-- Open brackets after one more word, innermost first. A closing bracket has to fit the
innermost one. -/
def Word.nest (w : Word) (opened : List String) : Option (List String) :=
  if w.isOpening then some (w.text :: opened)
  else match w.closes? with
    | none => some opened
    | some b => if opened.head? = some b then some opened.tail else none

/-- Open brackets after some words. -/
def openAfter : List String → List Word → Option (List String)
  | opened, [] => some opened
  | opened, w :: ws => (w.nest opened).bind fun o => openAfter o ws

/-- Every bracket finds its partner. -/
def Balanced (ws : List Word) : Prop := openAfter [] ws = some []

instance (ws : List Word) : Decidable (Balanced ws) :=
  inferInstanceAs (Decidable (openAfter [] ws = some []))

@[simp] theorem openAfter_nil (opened : List String) : openAfter opened [] = some opened := rfl

theorem openAfter_cons (opened : List String) (w : Word) (ws : List Word) :
    openAfter opened (w :: ws) = (w.nest opened).bind fun o => openAfter o ws := rfl

theorem openAfter_append (opened : List String) (u v : List Word) :
    openAfter opened (u ++ v) = (openAfter opened u).bind fun o => openAfter o v := by
  induction u generalizing opened with
  | nil => rfl
  | cons w u ih =>
    rw [List.cons_append, openAfter_cons, openAfter_cons]
    cases w.nest opened with
    | none => rfl
    | some o => exact ih o

lemma Word.nest_of_isPlain {w : Word} (h : w.isPlain = true) (opened : List String) :
    w.nest opened = some opened := by
  simp only [Word.isPlain, Bool.and_eq_true, Bool.not_eq_true', Option.isNone_iff_eq_none] at h
  unfold Word.nest
  rw [if_neg (by simp [h.1]), h.2]

lemma Word.nest_of_isOpening {w : Word} (h : w.isOpening = true) (opened : List String) :
    w.nest opened = some (w.text :: opened) := by
  unfold Word.nest
  rw [if_pos h]

lemma Word.isOpening_eq_false_of_closes? {w : Word} {b : String} (h : w.closes? = some b) :
    w.isOpening = false := by
  by_contra ho
  rw [Word.closes?_eq_none_of_isOpening (by simpa using ho)] at h
  simp at h

lemma Word.nest_of_closes? {w : Word} {b : String} (h : w.closes? = some b)
    (opened : List String) : w.nest (b :: opened) = some opened := by
  unfold Word.nest
  rw [if_neg (by simp [Word.isOpening_eq_false_of_closes? h]), h]
  simp

/-- A closing bracket may not stand where another one is due. -/
lemma Word.nest_of_head?_ne {w : Word} {b : String} (h : w.closes? = some b) {opened : List String}
    (hb : opened.head? ≠ some b) : w.nest opened = none := by
  unfold Word.nest
  rw [if_neg (by simp [Word.isOpening_eq_false_of_closes? h]), h]
  exact if_neg hb

lemma Word.nest_cases {w : Word} {o o' : List String} (h : w.nest o = some o') :
    (w.isPlain = true ∧ o' = o) ∨ (w.isOpening = true ∧ o' = w.text :: o) ∨
      ∃ b, w.closes? = some b ∧ o = b :: o' := by
  unfold Word.nest at h
  split_ifs at h with ho
  · cases h
    exact .inr (.inl ⟨ho, rfl⟩)
  · cases hc : w.closes? with
    | none =>
      simp only [hc] at h
      cases h
      exact .inl ⟨by simp [Word.isPlain, ho, hc], rfl⟩
    | some b =>
      simp only [hc] at h
      split_ifs at h with hb
      cases h
      exact .inr (.inr ⟨b, rfl, List.eq_cons_of_mem_head? hb⟩)

lemma Word.nest_append {w : Word} {o o' : List String} (h : w.nest o = some o')
    (under : List String) : w.nest (o ++ under) = some (o' ++ under) := by
  rcases Word.nest_cases h with ⟨hplain, rfl⟩ | ⟨ho, rfl⟩ | ⟨b, hc, rfl⟩
  · exact Word.nest_of_isPlain hplain _
  · exact Word.nest_of_isOpening ho _
  · exact Word.nest_of_closes? hc _

/-- What was open before stays under what is opened. -/
theorem openAfter_append_under {ws : List Word} {o o' : List String}
    (h : openAfter o ws = some o') (under : List String) :
    openAfter (o ++ under) ws = some (o' ++ under) := by
  induction ws generalizing o with
  | nil =>
    cases h
    rfl
  | cons w ws ih =>
    rw [openAfter_cons] at h ⊢
    obtain ⟨o₁, hw, h⟩ := Option.bind_eq_some_iff.mp h
    rw [Word.nest_append hw under]
    exact ih h

theorem Balanced.openAfter {ws : List Word} (h : Balanced ws) (opened : List String) :
    openAfter opened ws = some opened := by
  simpa using openAfter_append_under h opened

theorem balanced_nil : Balanced [] := rfl

theorem Balanced.append {u v : List Word} (hu : Balanced u) (hv : Balanced v) :
    Balanced (u ++ v) := by
  unfold Balanced
  rw [openAfter_append, hu.openAfter]
  exact hv

theorem balanced_singleton {w : Word} (h : w.isPlain = true) : Balanced [w] := by
  unfold Balanced
  rw [openAfter_cons, Word.nest_of_isPlain h]
  rfl

theorem Balanced.cons {w : Word} {ws : List Word} (h : w.isPlain = true) (hws : Balanced ws) :
    Balanced (w :: ws) :=
  (balanced_singleton h).append hws

lemma Balanced.of_concat {ws : List Word} {w : Word} (h : Balanced (ws ++ [w]))
    (hw : w.isPlain = true) : Balanced ws := by
  rw [Balanced, openAfter_append] at h
  obtain ⟨opened, hopened, h⟩ := Option.bind_eq_some_iff.mp h
  rw [openAfter_cons, Word.nest_of_isPlain hw] at h
  cases h
  exact hopened

/-- A pair of brackets around balanced words. -/
theorem Balanced.bracket {o c : Word} {ws : List Word} (ho : o.isOpening = true)
    (hc : c.closes? = some o.text) (h : Balanced ws) : Balanced (o :: (ws ++ [c])) := by
  unfold Balanced
  rw [openAfter_cons, Word.nest_of_isOpening ho]
  simp only [Option.bind_some]
  rw [openAfter_append, h.openAfter]
  simp only [Option.bind_some]
  rw [openAfter_cons, Word.nest_of_closes? hc]
  rfl

/-- A bracket that is closed has balanced words up to its partner. -/
theorem exists_closing_of_openAfter {ws : List Word} {above : List String} {b : String}
    {under final : List String} (h : openAfter (above ++ b :: under) ws = some final)
    (hlen : final.length ≤ under.length) :
    ∃ u c v, ws = u ++ c :: v ∧ openAfter above u = some [] ∧ c.closes? = some b ∧
      openAfter under v = some final := by
  induction ws generalizing above with
  | nil =>
    cases h
    simp at hlen
    omega
  | cons w ws ih =>
    rw [openAfter_cons] at h
    obtain ⟨o, hw, h⟩ := Option.bind_eq_some_iff.mp h
    have hnext : ∀ above', o = above' ++ b :: under → w.nest above = some above' →
        ∃ u c v, w :: ws = u ++ c :: v ∧ openAfter above u = some [] ∧ c.closes? = some b ∧
          openAfter under v = some final := by
      intro above' ho hw'
      subst ho
      obtain ⟨u, c, v, rfl, hu, hc, hv⟩ := ih h
      refine ⟨w :: u, c, v, rfl, ?_, hc, hv⟩
      rw [openAfter_cons, hw']
      exact hu
    rcases Word.nest_cases hw with ⟨hplain, rfl⟩ | ⟨ho, rfl⟩ | ⟨wanted, hc, habove⟩
    · exact hnext above rfl (Word.nest_of_isPlain hplain above)
    · exact hnext (w.text :: above) rfl (Word.nest_of_isOpening ho above)
    · cases above with
      | nil =>
        cases habove
        exact ⟨[], w, ws, rfl, rfl, hc, h⟩
      | cons a above =>
        cases habove
        exact hnext above rfl (Word.nest_of_closes? hc above)

/-- Every word of balanced words stands between what is open before it and after it. -/
lemma Balanced.exists_split {ws : List Word} (h : Balanced ws) {k : Nat} (hk : k < ws.length) :
    ∃ u v opened after, ws = u ++ ws[k] :: v ∧ u.length = k ∧
      ActorDiagram.openAfter [] u = some opened ∧ ws[k].nest opened = some after ∧
      ActorDiagram.openAfter after v = some [] := by
  have hsplit : ws = ws.take k ++ ws[k] :: ws.drop (k + 1) := by
    rw [← List.drop_eq_getElem_cons hk, List.take_append_drop]
  have hopen := h
  rw [Balanced, hsplit, openAfter_append] at hopen
  obtain ⟨opened, hu, hopen⟩ := Option.bind_eq_some_iff.mp hopen
  rw [openAfter_cons] at hopen
  obtain ⟨after, hw, hv⟩ := Option.bind_eq_some_iff.mp hopen
  exact ⟨_, _, opened, after, hsplit, List.length_take_of_le (le_of_lt hk), hu, hw, hv⟩

end ActorDiagram
