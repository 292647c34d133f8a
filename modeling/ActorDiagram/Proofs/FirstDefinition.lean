import Mathlib
import ActorDiagram.Proofs.DecisionReading
import ActorDiagram.Proofs.LockstepHelper

/-!
# First definitions

A function that is written without parameters and with its body in braces is read with just that
body. Its first definition with a body is the helper that calls of it are followed to.
-/

namespace ActorDiagram

/-- The sign before a body. -/
def Word.equals : Word := ⟨.operator, "="⟩

/-- Words of a function without parameters, up to its body. -/
def definitionHead (name : String) : List Word :=
  [.name "def", .name name, .mark "(", .mark ")", .equals, .mark leftBrace]

/-- Words of a function without parameters that has this body. -/
def definitionOf (name : String) (body : List Word) : List Word :=
  definitionHead name ++ (body ++ [.mark rightBrace])

namespace Stream.Says

variable {s : Stream} {d i : Nat} {name : String} {body : List Word}

lemma brackets_of_definition (h : s.Says d i (definitionOf name body)) (hbody : Balanced body) :
    s.closer (i + 2) = .ok (i + 3) ∧ s.closer (i + 5) = .ok (i + 6 + body.length) ∧
      s.Says (d + 1) (i + 6) (body ++ [.mark rightBrace]) := by
  have hparen : s.Says d (i + 2) (.mark "(" :: ([] ++ .mark ")" :: .equals ::
      .mark leftBrace :: (body ++ [.mark rightBrace]))) :=
    (h.tail (Word.isPlain_name "def")).tail (Word.isPlain_name name)
  obtain ⟨hclose, -, hrest⟩ := hparen.bracket (by decide) (by decide) balanced_nil
  have hbrace : s.Says d (i + 5) (.mark leftBrace :: (body ++ [.mark rightBrace])) :=
    hrest.tail (by decide)
  obtain ⟨hclose', hinner, -⟩ := hbrace.bracket isOpening_leftBrace closes?_rightBrace hbody
  exact ⟨hclose, hclose', hinner⟩

lemma get?_of_definition (h : s.Says d i (definitionOf name body)) {k : Nat} (hk : k < 6) :
    ∃ t, s.get? (i + k) = some t ∧ (definitionHead name)[k]? = some t.word := by
  have hlen : (definitionHead name).length = 6 := rfl
  obtain ⟨t, ht, hw⟩ := h.get?_of_lt (k := i + k) (by omega) (by
    rw [definitionOf, List.length_append]
    omega)
  rw [Nat.add_sub_cancel_left, definitionOf, List.getElem?_append_left (by omega)] at hw
  exact ⟨t, ht, hw⟩

lemma body_of_definition (h : s.Says d i (definitionOf name body)) (hbody : Balanced body) :
    s.Says (d + 1) (i + 6) body ∧
      (∀ t, s.before? (i + 6) = some t → Window.quietBefore t = true) ∧
      ∀ t, s.get? (i + 6 + body.length) = some t →
        Window.quietAfter t = true ∧ t.isMark "[" = false := by
  obtain ⟨-, -, hinner⟩ := h.brackets_of_definition hbody
  refine ⟨hinner.left, ?_, ?_⟩
  · intro t ht
    obtain ⟨u, hu, hw⟩ := h.get?_of_definition (k := 5) (by decide)
    rw [show s.before? (i + 6) = s.get? (i + 5) from rfl, hu] at ht
    cases ht
    have hw : t.word = .mark leftBrace := (Option.some.inj hw).symm
    rw [Window.quietBefore, Lexeme.isMark, Lexeme.isWordOf,
      show t.kind = .mark from congrArg Word.kind hw, show t.text = _ from congrArg Word.text hw]
    decide
  · intro t ht
    obtain ⟨u, hu, hw⟩ := hinner.get?_of_lt (k := i + 6 + body.length) (by omega) (by simp)
    rw [ht] at hu
    cases hu
    rw [Nat.add_sub_cancel_left, List.getElem?_concat_length] at hw
    have hw : t.word = .mark rightBrace := (Option.some.inj hw).symm
    rw [Window.quietAfter, Lexeme.isMark, Lexeme.isMark, Lexeme.isWord,
      show t.kind = .mark from congrArg Word.kind hw, show t.text = _ from congrArg Word.text hw]
    decide

end Stream.Says

namespace Helper

variable {s : Stream} {states : StateIndex} {d i : Nat} {name : String} {body : List Word}

lemma nameAt?_of_definition (h : s.Says d i (definitionOf name body)) :
    ∃ t, nameAt? s i = some t ∧ t.text = name := by
  obtain ⟨word, hword, hw⟩ := h.get?_of_definition (k := 0) (by decide)
  obtain ⟨t, ht, htw⟩ := h.get?_of_definition (k := 1) (by decide)
  have hw : word.word = .name "def" := (Option.some.inj hw).symm
  have htw : t.word = .name name := (Option.some.inj htw).symm
  refine ⟨t, ?_, congrArg Word.text htw⟩
  unfold nameAt?
  rw [show s.get? i = some word from hword, ht]
  simp only
  rw [Lexeme.isWord_iff.mpr hw, Lexeme.isIdentifier_of_word htw]
  rfl

/-- A written definition has the body between its braces. -/
theorem body?_of_definition (h : s.Says d i (definitionOf name body)) (hbody : Balanced body) :
    body? s i = .ok (some (i + 6, i + 6 + body.length)) := by
  obtain ⟨hclose, hclose', -⟩ := h.brackets_of_definition hbody
  obtain ⟨word, hword, -⟩ := h.get?_of_definition (k := 0) (by decide)
  obtain ⟨t₂, ht₂, hw₂⟩ := h.get?_of_definition (k := 2) (by decide)
  obtain ⟨t₄, ht₄, hw₄⟩ := h.get?_of_definition (k := 4) (by decide)
  obtain ⟨t₅, ht₅, hw₅⟩ := h.get?_of_definition (k := 5) (by decide)
  have hopen : t₂.isMark "(" = true := Lexeme.isMark_iff.mpr (Option.some.inj hw₂).symm
  have hbrace : t₅.isMark leftBrace = true := Lexeme.isMark_iff.mpr (Option.some.inj hw₅).symm
  have hw₄ : t₄.word = .equals := (Option.some.inj hw₄).symm
  have hkind : t₄.kind = .operator := congrArg Word.kind hw₄
  have htext : t₄.text = "=" := congrArg Word.text hw₄
  have hend : ∀ depth, headEndFrom s depth s.size (i + 2) = .ok (.equals (i + 4)) := by
    intro depth
    obtain ⟨fuel, hfuel⟩ : ∃ fuel, s.size = fuel + 1 + 1 := by
      have := Stream.lt_of_get? ht₂
      exact ⟨s.size - 2, by omega⟩
    rw [hfuel, headEndFrom, ht₂]
    simp only [hopen, Bool.true_or, if_true]
    rw [hclose]
    simp only [Bind.bind, Except.bind]
    rw [headEndFrom, ht₄]
    simp [Lexeme.isMark, Lexeme.isOperator, hkind, htext]
  rw [body?_eq, Stream.token_eq_ok_iff.mpr (show s.get? i = some word from hword)]
  simp only [Bind.bind, Except.bind]
  rw [hend]
  simp only [bodyFrom]
  rw [show i + 4 + 1 = i + 5 by omega, ht₅]
  simp only [hbrace, if_true]
  rw [bracedBody, hclose']
  rfl

lemma parameters_of_definition (h : s.Says d i (definitionOf name body)) (hbody : Balanced body) :
    parameters s i = .ok [] := by
  obtain ⟨hclose, -⟩ := h.brackets_of_definition hbody
  obtain ⟨t₂, ht₂, hw₂⟩ := h.get?_of_definition (k := 2) (by decide)
  obtain ⟨t₄, ht₄, hw₄⟩ := h.get?_of_definition (k := 4) (by decide)
  have hopen : t₂.isMark "(" = true := Lexeme.isMark_iff.mpr (Option.some.inj hw₂).symm
  have hkind : t₄.kind = .operator := congrArg Word.kind (Option.some.inj hw₄).symm
  obtain ⟨fuel, hfuel⟩ : ∃ fuel, s.size = fuel + 1 + 1 := by
    have := Stream.lt_of_get? ht₂
    exact ⟨s.size - 2, by omega⟩
  have hnames : Pattern.boundNames s (i + 2 + 1) (i + 3) = .ok [] := by
    unfold Pattern.boundNames Stream.depthAt Stream.range
    rw [if_neg (by omega), show i + 2 + 1 = i + 3 by omega, Nat.sub_self]
    rfl
  unfold parameters
  rw [hfuel, parametersFrom, ht₂]
  simp only [hopen, if_true]
  rw [hclose]
  simp only [Bind.bind, Except.bind]
  rw [hnames]
  simp only
  rw [parametersFrom, ht₄]
  simp [Lexeme.isMark, hkind]

/-- The helper of a written definition has the branches of its body. -/
theorem branches_of_definition (h : s.Says d i (definitionOf name body)) (hbody : Balanced body)
    {t : Token} {f : Helper} (hf : at? s states i t = .ok (some f)) :
    Body.branches s states (i + 6) (i + 6 + body.length) [] = .ok f.branches := by
  unfold at? at hf
  rw [body?_of_definition h hbody, parameters_of_definition h hbody] at hf
  simp only [Bind.bind, Except.bind] at hf
  cases hbs : Body.branches s states (i + 6) (i + 6 + body.length) [] with
  | error e =>
    rw [hbs] at hf
    cases hf
  | ok bs =>
    rw [hbs] at hf
    cases hf
    rfl

/-! ### The first definition -/

lemma name_of_at? {t : Token} {f : Helper} (h : at? s states i t = .ok (some f)) :
    f.name = t.text := by
  unfold at? at h
  obtain ⟨body, -, h⟩ := bind_eq_ok_iff.mp h
  cases body with
  | none => cases h
  | some p =>
    obtain ⟨bound, -, h⟩ := bind_eq_ok_iff.mp h
    obtain ⟨bs, -, h⟩ := bind_eq_ok_iff.mp h
    cases h
    rfl

lemma exists_collect {known helpers : List Helper} {is : List Nat}
    (h : collect s states known is = .ok helpers) : ∃ more, helpers = known ++ more := by
  induction is generalizing known with
  | nil =>
    cases h
    exact ⟨[], (List.append_nil _).symm⟩
  | cons i is ih =>
    rw [collect_cons] at h
    cases hn : nameAt? s i with
    | none =>
      rw [hn] at h
      exact ih h
    | some t =>
      rw [hn] at h
      simp only at h
      split_ifs at h
      · exact ih h
      · obtain ⟨found, -, h⟩ := bind_eq_ok_iff.mp h
        cases found with
        | none => exact ih h
        | some f =>
          obtain ⟨more, rfl⟩ := ih h
          exact ⟨f :: more, by rw [List.append_assoc, List.singleton_append]⟩

/-- Functions without bodies do not become helpers. -/
lemma any_collect_eq_false {known helpers : List Helper} {is : List Nat}
    (h : collect s states known is = .ok helpers) (hknown : known.any (·.name == name) = false)
    (hno : ∀ i ∈ is, ∀ t, nameAt? s i = some t → t.text = name → body? s i = .ok none) :
    helpers.any (·.name == name) = false := by
  induction is generalizing known with
  | nil =>
    cases h
    exact hknown
  | cons i is ih =>
    have hrest : ∀ i ∈ is, ∀ t, nameAt? s i = some t → t.text = name → body? s i = .ok none :=
      fun i hi => hno i (List.mem_cons_of_mem _ hi)
    rw [collect_cons] at h
    cases hn : nameAt? s i with
    | none =>
      rw [hn] at h
      exact ih h hknown hrest
    | some t =>
      rw [hn] at h
      simp only at h
      split_ifs at h
      · exact ih h hknown hrest
      · obtain ⟨found, hfound, h⟩ := bind_eq_ok_iff.mp h
        cases found with
        | none => exact ih h hknown hrest
        | some f =>
          refine ih h ?_ hrest
          have hne : f.name ≠ name := by
            rintro rfl
            have hbody := hno i List.mem_cons_self t hn (name_of_at? hfound).symm
            unfold at? at hfound
            rw [hbody] at hfound
            cases hfound
          rw [List.any_append, hknown]
          simp [hne]

lemma lt_size_of_nameAt? {t : Token} (h : nameAt? s i = some t) : i < s.size := by
  by_contra hge
  have hnone : s.get? i = none := Stream.get?_eq_none (by omega)
  unfold nameAt? at h
  rw [hnone] at h
  cases h

/-- The first definition with a body is the one that a call is followed to. -/
theorem find?_of_first {helpers : List Helper} {t : Token} {f : Helper}
    (h : ofStream s states = .ok helpers) (hn : nameAt? s i = some t)
    (hf : at? s states i t = .ok (some f))
    (hfirst : ∀ j < i, ∀ u, nameAt? s j = some u → u.text = t.text → body? s j = .ok none) :
    helpers.find? (·.name == t.text) = some f := by
  have hi := lt_size_of_nameAt? hn
  have hsplit : List.range s.size = List.range i ++ i :: List.range' (i + 1) (s.size - (i + 1)) := by
    have happend := @List.range'_append_1 0 i (s.size - (i + 1) + 1)
    rw [Nat.zero_add, List.range'_succ, show i + (s.size - (i + 1) + 1) = s.size by omega] at happend
    rw [List.range_eq_range', List.range_eq_range', happend]
  unfold ofStream at h
  rw [hsplit, collect_append] at h
  obtain ⟨known, hknown, h⟩ := bind_eq_ok_iff.mp h
  have hno := @any_collect_eq_false s states t.text [] known _ hknown rfl
    fun j hj => hfirst j (List.mem_range.mp hj)
  rw [collect_cons, hn] at h
  simp only [hno, hf, Bool.false_eq_true, if_false] at h
  obtain ⟨more, rfl⟩ := exists_collect h
  have hnone : known.find? (·.name == t.text) = none := by
    rw [List.find?_eq_none]
    intro g hg hname
    rw [List.any_eq_false] at hno
    exact hno g hg hname
  rw [List.find?_append, List.find?_append, hnone]
  simp [name_of_at? hf]

end Helper

end ActorDiagram
