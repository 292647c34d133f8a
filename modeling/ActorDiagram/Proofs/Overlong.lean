import Mathlib
import ActorDiagram.Proofs.Results
import ActorDiagram.Text.Reference

/-!
# References with too many digits

A text is decoded unless a decimal reference in it has more digits than are read. No reference is passed
over: what one is written with holds no `&`.
-/

namespace ActorDiagram.Text.Reference

/-- A decimal reference in the text has this many digits, which is more than are read. -/
def Overlong (cs : List Char) (count : Nat) : Prop :=
  ∃ before digits after, cs = before ++ '&' :: '#' :: (digits ++ after) ∧
    (∀ c ∈ digits, c.isDigit = true) ∧ (∀ c ∈ after.head?, c.isDigit = false) ∧
    digits.length = count ∧ digitLimit < count

/-- Such a reference has its `&` right before the text. -/
def OverlongAfter (cs : List Char) (count : Nat) : Prop :=
  ∃ digits after, cs = '#' :: (digits ++ after) ∧ (∀ c ∈ digits, c.isDigit = true) ∧
    (∀ c ∈ after.head?, c.isDigit = false) ∧ digits.length = count ∧ digitLimit < count

variable {cs : List Char} {c : Char} {count skip : Nat}

lemma Overlong.cons (h : Overlong cs count) (c : Char) : Overlong (c :: cs) count := by
  obtain ⟨before, digits, after, rfl, h⟩ := h
  exact ⟨c :: before, digits, after, rfl, h⟩

/-- The first character starts the reference, or it stands before it. -/
lemma overlong_cons_iff :
    Overlong (c :: cs) count ↔ Overlong cs count ∨ c = '&' ∧ OverlongAfter cs count := by
  constructor
  · rintro ⟨before, digits, after, heq, h⟩
    cases before with
    | nil =>
      obtain ⟨rfl, rfl⟩ := List.cons_eq_cons.mp heq
      exact .inr ⟨rfl, digits, after, rfl, h⟩
    | cons d before =>
      obtain ⟨rfl, rfl⟩ := List.cons_eq_cons.mp heq
      exact .inl ⟨before, digits, after, rfl, h⟩
  · rintro (h | ⟨rfl, digits, after, rfl, h⟩)
    · exact h.cons c
    · exact ⟨[], digits, after, rfl, h⟩

/-! ### One reference -/

lemma takeWhile_isDigit {digits after : List Char} (hdigits : ∀ c ∈ digits, c.isDigit = true)
    (hafter : ∀ c ∈ after.head?, c.isDigit = false) :
    (digits ++ after).takeWhile Char.isDigit = digits := by
  rw [List.takeWhile_append_of_pos hdigits]
  cases after with
  | nil => rw [List.takeWhile_nil, List.append_nil]
  | cons c after => rw [List.takeWhile_cons_of_neg (by simp [hafter c rfl]), List.append_nil]

lemma digits?_eq_error_iff {base : Nat} {isDigit : Char → Bool} : digits? base isDigit skip cs = .error count ↔
    base = 10 ∧ (cs.takeWhile isDigit).length = count ∧ digitLimit < count := by
  unfold digits?
  simp only
  split_ifs with hempty hlong
  · refine iff_of_false nofun ?_
    rintro ⟨-, rfl, hcount⟩
    rw [List.isEmpty_iff.mp hempty] at hcount
    exact absurd hcount (by simp)
  · simp only [Except.error.injEq]
    constructor
    · rintro rfl
      exact ⟨hlong.1, rfl, hlong.2⟩
    · exact fun h => h.2.1
  · refine iff_of_false nofun ?_
    rintro ⟨hbase, rfl, hcount⟩
    exact hlong ⟨hbase, hcount⟩
lemma after?_eq_error_iff : after? cs = .error count ↔ OverlongAfter cs count := by
  constructor
  · intro h
    unfold after? at h
    split at h
    · exact absurd (digits?_eq_error_iff.mp h).1 (by decide)
    · exact absurd (digits?_eq_error_iff.mp h).1 (by decide)
    · rename_i cs _ _
      obtain ⟨-, hlength, hcount⟩ := digits?_eq_error_iff.mp h
      refine ⟨cs.takeWhile Char.isDigit, cs.dropWhile Char.isDigit, by rw [List.takeWhile_append_dropWhile],
        fun c hc => List.mem_takeWhile_imp hc, fun c hc => ?_, hlength, hcount⟩
      have hnot := List.head?_dropWhile_not Char.isDigit cs
      rw [Option.mem_def.mp hc] at hnot
      simpa using hnot
    · cases h
  · rintro ⟨digits, after, rfl, hdigits, hafter, rfl, hcount⟩
    have htake := takeWhile_isDigit hdigits hafter
    cases digits with
    | nil => exact absurd hcount (by simp)
    | cons d digits =>
      have hd := hdigits d List.mem_cons_self
      have hx : d ≠ 'x' := by rintro rfl; exact absurd hd (by decide)
      have hX : d ≠ 'X' := by rintro rfl; exact absurd hd (by decide)
      rw [List.cons_append] at htake ⊢
      unfold after?
      split
      · rename_i heq
        exact absurd (List.cons_eq_cons.mp (List.cons_eq_cons.mp heq).2).1 hx
      · rename_i heq
        exact absurd (List.cons_eq_cons.mp (List.cons_eq_cons.mp heq).2).1 hX
      · rename_i heq
        cases heq
        exact digits?_eq_error_iff.mpr ⟨rfl, by rw [htake], hcount⟩
      · rename_i hother
        exact absurd rfl (hother _)

lemma notMem_append_semicolon {ds : List Char} (h : '&' ∉ ds) :
    '&' ∉ (ds ++ cs).take (ds.length + semicolonLength ((ds ++ cs).drop ds.length)) := by
  rw [List.drop_left, List.take_length_add_append]
  unfold semicolonLength
  split <;> simp [h]

/-- What a reference is written with, after the `&`. -/
lemma notMem_take_of_digits? {base : Nat} {isDigit : Char → Bool} (hamp : isDigit '&' = false)
    (front : List Char) (hfront : '&' ∉ front) {text : List Char} {n : Nat}
    (h : digits? base isDigit front.length cs = .ok (some (text, n))) : '&' ∉ (front ++ cs).take n := by
  have hdigits : '&' ∉ cs.takeWhile isDigit := fun hmem => by
    simpa [hamp] using List.mem_takeWhile_imp hmem
  obtain ⟨rest, hsplit⟩ : cs.takeWhile isDigit <+: cs := List.takeWhile_prefix _
  unfold digits? at h
  simp only at h
  generalize cs.takeWhile isDigit = ds at h hdigits hsplit
  subst hsplit
  split_ifs at h
  · cases h
  · simp only [Except.ok.injEq, Option.some.injEq, Prod.mk.injEq] at h
    rw [← h.2, Nat.add_assoc, List.take_length_add_append, List.mem_append, not_or]
    exact ⟨hfront, notMem_append_semicolon hdigits⟩

lemma length_of_barePrefix? {name : List Char} {k : Nat} {text : List Char} {n : Nat}
    (h : barePrefix? name k = some (text, n)) : n ≤ k := by
  induction k with
  | zero => cases h
  | succ k ih =>
    unfold barePrefix? at h
    simp only at h
    split_ifs at h
    · obtain ⟨codes, -, hcodes⟩ := Option.map_eq_some_iff.mp h
      exact ((Prod.mk.injEq ..).mp hcodes).2 ▸ le_rfl
    · exact Nat.le_succ_of_le (ih h)

lemma notMem_take_of_named? {text : List Char} {n : Nat} (h : named? cs = some (text, n)) :
    '&' ∉ cs.take n := by
  have hname : '&' ∉ (cs.take 32).takeWhile isNamePart := fun hmem => by
    simpa [isNamePart] using List.mem_takeWhile_imp hmem
  obtain ⟨rest, hsplit⟩ : (cs.take 32).takeWhile isNamePart <+: cs :=
    (List.takeWhile_prefix _).trans (List.take_prefix 32 cs)
  unfold named? at h
  simp only at h
  generalize (cs.take 32).takeWhile isNamePart = name at h hname hsplit
  subst hsplit
  have hbare : ∀ {found}, barePrefix? name name.length = some (found, n) → '&' ∉ (name ++ rest).take n := by
    intro found hfound hmem
    rw [List.take_append_of_le_length (length_of_barePrefix? hfound)] at hmem
    exact hname (List.mem_of_mem_take hmem)
  split_ifs at h with hsemicolon
  · split at h
    · cases h
      rw [← hsemicolon]
      exact notMem_append_semicolon hname
    · exact hbare h
  · exact hbare h

lemma notMem_take_of_after? {text : List Char} {n : Nat} (h : after? cs = .ok (some (text, n))) :
    '&' ∉ cs.take n := by
  unfold after? at h
  split at h
  · exact notMem_take_of_digits? (by decide) ['#', 'x'] (by decide) h
  · exact notMem_take_of_digits? (by decide) ['#', 'X'] (by decide) h
  · exact notMem_take_of_digits? (by decide) ['#'] (by decide) h
  · exact notMem_take_of_named? (Except.ok.inj h)

/-! ### Whole texts -/

lemma overlong_of_decodeFrom (h : decodeFrom skip cs = .error count) : Overlong cs count := by
  induction cs generalizing skip with
  | nil => cases skip <;> cases h
  | cons c cs ih =>
    cases skip with
    | succ skip => exact (ih h).cons c
    | zero =>
      unfold decodeFrom at h
      split_ifs at h with hc
      · split at h
        · exact (ih (map_eq_error_iff.mp h)).cons c
        · exact (ih (map_eq_error_iff.mp h)).cons c
        · rename_i hafter
          cases h
          exact overlong_cons_iff.mpr (.inr ⟨hc, after?_eq_error_iff.mp hafter⟩)
      · exact (ih (map_eq_error_iff.mp h)).cons c

lemma exists_decodeFrom_eq_error (h : Overlong cs count) (hskip : '&' ∉ cs.take skip) :
    ∃ count, decodeFrom skip cs = .error count := by
  induction cs generalizing skip with
  | nil =>
    obtain ⟨before, digits, after, heq, -⟩ := h
    simp at heq
  | cons c cs ih =>
    cases skip with
    | succ skip =>
      rw [List.take_succ_cons, List.mem_cons, not_or] at hskip
      exact ih ((overlong_cons_iff.mp h).resolve_right fun hstart => hskip.1 hstart.1.symm) hskip.2
    | zero =>
      unfold decodeFrom
      split_ifs with hc
      · cases hafter : after? cs with
        | error count => exact ⟨count, rfl⟩
        | ok found =>
          have hrest : Overlong cs count := (overlong_cons_iff.mp h).resolve_right fun hstart => by
            rw [after?_eq_error_iff.mpr hstart.2] at hafter
            cases hafter
          cases found with
          | none =>
            obtain ⟨count', hcount'⟩ := ih hrest (show '&' ∉ cs.take 0 by simp)
            exact ⟨count', map_eq_error_iff.mpr hcount'⟩
          | some found =>
            obtain ⟨count', hcount'⟩ := ih hrest (notMem_take_of_after? hafter)
            exact ⟨count', map_eq_error_iff.mpr hcount'⟩
      · obtain ⟨count', hcount'⟩ := ih
          ((overlong_cons_iff.mp h).resolve_right fun hstart => hc hstart.1) (show '&' ∉ cs.take 0 by simp)
        exact ⟨count', map_eq_error_iff.mpr hcount'⟩

/-- The failure to decode a text tells of a reference in it. -/
theorem overlong_of_decode (h : decode cs = .error count) : Overlong cs count := overlong_of_decodeFrom h

/-- Texts without references that are too long are those that can be decoded. -/
theorem exists_decode_iff : (∃ decoded, decode cs = .ok decoded) ↔ ∀ count, ¬ Overlong cs count := by
  constructor
  · rintro ⟨decoded, hdecoded⟩ count h
    obtain ⟨count', hcount'⟩ := exists_decodeFrom_eq_error h (show '&' ∉ cs.take 0 by simp)
    rw [decode, hcount'] at hdecoded
    cases hdecoded
  · intro h
    cases hdecode : decode cs with
    | ok decoded => exact ⟨decoded, rfl⟩
    | error count => exact absurd (overlong_of_decode hdecode) (h count)

end ActorDiagram.Text.Reference
