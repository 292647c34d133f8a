import Mathlib
import ActorDiagram.Mermaid.Label
import ActorDiagram.Proofs.Overlong
import ActorDiagram.Settings.Json

/-!
# Text on one line

Labels and names are written on one line and without the characters that Mermaid gives a meaning.
A label's entities can be told from its text although `#` is written as it is: every semicolon in an
escaped label ends an entity. Nothing is written where a reference is too long to be decoded.
-/

namespace ActorDiagram

namespace Mermaid

/-! ### Characters of escaped text -/

/-- Entities that labels are written with. -/
def entities : List (List Char) :=
  [['#', '5', '9', ';'], ['#', 'a', 'm', 'p', ';'], ['#', 'l', 't', ';'], ['#', 'g', 't', ';'],
    ['#', 'q', 'u', 'o', 't', ';'], ['#', '1', '2', '4', ';']]

lemma entity_cases (semicolons : Bool) (c : Char) :
    entity semicolons c ∈ entities ∨
      entity semicolons c = [c] ∧ c ∉ ['&', '<', '>', '"', '|'] ∧ (semicolons = true → c ≠ ';') := by
  unfold entity
  split_ifs with h₁ h₂ h₃ h₄ h₅ h₆
  · exact .inl (by decide)
  · exact .inl (by decide)
  · exact .inl (by decide)
  · exact .inl (by decide)
  · exact .inl (by decide)
  · exact .inl (by decide)
  · refine .inr ⟨rfl, by simp [h₂, h₃, h₄, h₅, h₆], ?_⟩
    rintro rfl rfl
    exact h₁ (by decide)

lemma mem_escape {semicolons : Bool} {cs : List Char} {c : Char} (h : c ∈ escape semicolons cs) :
    (c ∈ cs ∧ c ∉ ['&', '<', '>', '"', '|']) ∨ c ∈ entities.flatten := by
  obtain ⟨d, hd, hc⟩ := List.mem_flatMap.mp h
  rcases entity_cases semicolons d with hentity | ⟨heq, hplain, -⟩
  · exact .inr (List.mem_flatten.mpr ⟨_, hentity, hc⟩)
  · rw [heq, List.mem_singleton] at hc
    subst c
    exact .inl ⟨hd, hplain⟩

lemma notMem_escape {semicolons : Bool} {cs : List Char} {c : Char} (hc : c ∈ ['&', '<', '>', '"', '|']) :
    c ∉ escape semicolons cs := by
  intro h
  rcases mem_escape h with ⟨-, hplain⟩ | hentity
  · exact hplain hc
  · fin_cases hc <;> exact absurd hentity (by decide)

/-! ### Reading a label back -/

/-- Text with its entities decoded. -/
def unescape : List Char → List Char
  | '#' :: '5' :: '9' :: ';' :: cs => ';' :: unescape cs
  | '#' :: 'a' :: 'm' :: 'p' :: ';' :: cs => '&' :: unescape cs
  | '#' :: 'l' :: 't' :: ';' :: cs => '<' :: unescape cs
  | '#' :: 'g' :: 't' :: ';' :: cs => '>' :: unescape cs
  | '#' :: 'q' :: 'u' :: 'o' :: 't' :: ';' :: cs => '"' :: unescape cs
  | '#' :: '1' :: '2' :: '4' :: ';' :: cs => '|' :: unescape cs
  | c :: cs => c :: unescape cs
  | [] => []

lemma unescape_cons {c : Char} {cs : List Char} (h : ∀ code ∈ entities, ¬ code <+: c :: cs) :
    unescape (c :: cs) = c :: unescape cs := by
  simp only [entities, List.mem_cons, List.not_mem_nil, or_false, forall_eq_or_imp, forall_eq] at h
  conv_lhs => unfold unescape
  split <;> simp_all [List.cons_prefix_cons]

/-- In an escaped label a semicolon only stands at the end of an entity, so the rest of an entity
without its `#` is not the start of one. -/
lemma not_prefix_escape {word cs : List Char} (h : '#' ∉ word) :
    ¬ word ++ [';'] <+: escape true cs := by
  induction word generalizing cs with
  | nil =>
    intro hprefix
    cases cs with
    | nil => simp [escape] at hprefix
    | cons c cs =>
      rw [escape, List.flatMap_cons] at hprefix
      rcases entity_cases true c with hentity | ⟨heq, -, hsemicolon⟩
      · generalize entity true c = code at hentity hprefix
        simp only [entities, List.mem_cons, List.not_mem_nil, or_false] at hentity
        rcases hentity with rfl | rfl | rfl | rfl | rfl | rfl <;> simp at hprefix
      · rw [heq, List.singleton_append, List.nil_append, List.cons_prefix_cons] at hprefix
        exact hsemicolon rfl hprefix.1.symm
  | cons d word ih =>
    intro hprefix
    cases cs with
    | nil => simp [escape] at hprefix
    | cons c cs =>
      rw [escape, List.flatMap_cons] at hprefix
      rcases entity_cases true c with hentity | ⟨heq, -, -⟩
      · generalize entity true c = code at hentity hprefix
        have hd : d ≠ '#' := fun heq => h (by simp [heq])
        simp only [entities, List.mem_cons, List.not_mem_nil, or_false] at hentity
        rcases hentity with rfl | rfl | rfl | rfl | rfl | rfl <;> simp [hd] at hprefix
      · rw [heq, List.singleton_append, List.cons_append, List.cons_prefix_cons] at hprefix
        exact ih (fun hmem => h (List.mem_cons_of_mem _ hmem)) hprefix.2

/-- Reading an escaped label gives the text that was escaped. -/
theorem unescape_escape (cs : List Char) : unescape (escape true cs) = cs := by
  induction cs with
  | nil => rfl
  | cons c cs ih =>
    rw [escape, List.flatMap_cons, ← escape]
    by_cases hc : c ∈ [';', '&', '<', '>', '"', '|']
    · fin_cases hc <;> simp [entity, unescape, ih]
    · have hentity : entity true c = [c] := by
        simp only [List.mem_cons, List.not_mem_nil, or_false, not_or] at hc
        simp [entity, hc]
      rw [hentity, List.singleton_append, unescape_cons, ih]
      -- An entity that began with this character would go on in the escaped rest.
      have hrest : ∀ word : List Char, '#' ∉ word → ¬ '#' :: (word ++ [';']) <+: c :: escape true cs := by
        intro word hword hprefix
        exact not_prefix_escape hword (List.cons_prefix_cons.mp hprefix).2
      intro code hcode
      fin_cases hcode
      · exact hrest ['5', '9'] (by decide)
      · exact hrest ['a', 'm', 'p'] (by decide)
      · exact hrest ['l', 't'] (by decide)
      · exact hrest ['g', 't'] (by decide)
      · exact hrest ['q', 'u', 'o', 't'] (by decide)
      · exact hrest ['1', '2', '4'] (by decide)

end Mermaid

/-! ### Line breaks -/

namespace Text

lemma mem_collapseFrom {inRun : Bool} {cs : List Char} {c : Char} (h : c ∈ collapseFrom inRun cs) :
    isBlank c = false ∨ c = ' ' := by
  induction cs generalizing inRun with
  | nil => simp [collapseFrom] at h
  | cons d ds ih =>
    unfold collapseFrom at h
    split_ifs at h with hd hrun
    · exact ih h
    · rcases List.mem_cons.mp h with rfl | h
      · exact .inr rfl
      · exact ih h
    · rcases List.mem_cons.mp h with rfl | h
      · exact .inl (by simpa using hd)
      · exact ih h

lemma mem_of_mem_trim {cs : List Char} {c : Char} (h : c ∈ trim cs) : c ∈ cs := by
  unfold trim trimRight trimLeft at h
  have hinner := (List.dropWhile_sublist _).subset (List.mem_reverse.mp h)
  exact (List.dropWhile_sublist _).subset (List.mem_reverse.mp hinner)

end Text

namespace Mermaid

open Text.Reference (Overlong)

variable {cs u : List Char} {semicolons : Bool} {text written : String} {e : Error}

lemma normalize_eq_ok_iff : normalize cs = .ok u ↔
    ∃ decoded, Text.Reference.decode cs = .ok decoded ∧ Text.trim (Text.collapseBlanks decoded) = u := by
  unfold normalize
  cases Text.Reference.decode cs <;> simp

/-- Text is normalized unless a reference in it is too long. -/
lemma overlong_of_normalize (h : normalize cs = .error e) :
    ∃ count, e = .manyDigits count ∧ Overlong cs count := by
  unfold normalize at h
  cases hdecode : Text.Reference.decode cs with
  | ok decoded => simp [hdecode] at h
  | error count =>
    simp only [hdecode, Except.error.injEq] at h
    exact ⟨count, h.symm, Text.Reference.overlong_of_decode hdecode⟩

lemma escaped_eq_ok_iff : escaped semicolons text = .ok written ↔
    ∃ u, normalize text.toList = .ok u ∧ String.ofList (escape semicolons u) = written := map_eq_ok_iff

lemma overlong_of_escaped (h : escaped semicolons text = .error e) :
    ∃ count, e = .manyDigits count ∧ Overlong text.toList count :=
  overlong_of_normalize (map_eq_error_iff.mp h)

/-- Normalized text has no blanks in it but spaces. -/
theorem mem_normalize (h : normalize cs = .ok u) {c : Char} (hc : c ∈ u) :
    Text.isBlank c = false ∨ c = ' ' := by
  obtain ⟨decoded, -, rfl⟩ := normalize_eq_ok_iff.mp h
  exact Text.mem_collapseFrom (Text.mem_of_mem_trim hc)

lemma break_notMem_escape (semicolons : Bool) (h : normalize cs = .ok u) :
    '\n' ∉ escape semicolons u := by
  intro hbreak
  rcases mem_escape hbreak with ⟨hmem, -⟩ | hentity
  · exact absurd (mem_normalize h hmem) (by decide)
  · exact absurd hentity (by decide)

end Mermaid

namespace Text

lemma break_notMem_hexDigits (width n : Nat) : '\n' ∉ hexDigits width n := by
  have hdigit : ∀ k < 16, Nat.digitChar k ≠ '\n' := by decide
  have hdigits : '\n' ∉ Nat.toDigits 16 n := by
    induction n using Nat.strongRecOn with
    | ind n ih =>
      by_cases hlt : n < 16
      · rw [Nat.toDigits_of_lt_base hlt, List.mem_singleton]
        exact (hdigit n hlt).symm
      · rw [Nat.toDigits_of_base_le (by decide) (by omega), List.mem_append, List.mem_singleton, not_or]
        exact ⟨ih _ (by omega), (hdigit _ (Nat.mod_lt n (by decide))).symm⟩
  simp [hexDigits, hdigits, List.mem_replicate]

lemma break_notMem_unitEscape (n : Nat) : '\n' ∉ unitEscape n := by
  simp [unitEscape, break_notMem_hexDigits]

/-- A JSON string stays on one line. -/
theorem break_notMem_jsonString (s : String) : '\n' ∉ (jsonString s).toList := by
  have hchar : ∀ c, '\n' ∉ jsonChar c := by
    intro c
    unfold jsonChar
    split_ifs with h₁ h₂
    · simp only [Bool.or_eq_true, decide_eq_true_eq] at h₁
      rcases h₁ with rfl | rfl <;> decide
    all_goals first
      | decide
      | exact break_notMem_unitEscape _
      | simp [break_notMem_unitEscape]
    exact fun h => h₂ h.symm
  simp only [jsonString, String.toList_ofList, List.mem_append, List.mem_cons, List.mem_flatMap,
    List.not_mem_nil, or_false, not_or, not_exists, not_and]
  exact ⟨⟨by decide, fun c _ => hchar c⟩, by decide⟩

end Text

end ActorDiagram
