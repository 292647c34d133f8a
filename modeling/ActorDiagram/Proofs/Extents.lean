import Mathlib
import ActorDiagram.Source.Literal

/-!
# Extents of literals

How long a literal is depends on its own characters only, and on the next one where that goes on with it. So
the text behind a literal may change, as long as no letter, digit, sign or quote comes next.
-/

namespace ActorDiagram.Literal

variable {cs rest : List Char} {m n : Nat} {p : Char → Bool}

/-- Characters that no word and no literal goes on with; a number may with a point. -/
def boundaries : List Char := ['\n', ' ', '.', ',', ')', ']', ':', ';', '(', '[']

/-- A text that goes on with no word and no literal before it, but for a point in a number. -/
def Ended (rest : List Char) : Prop := ∀ c ∈ rest.head?, c ∈ boundaries

lemma ended_nil : Ended [] := by simp [Ended]

lemma ended_cons {c : Char} (hc : c ∈ boundaries) (cs : List Char) : Ended (c :: cs) := by
  intro d hd
  rw [List.head?_cons, Option.mem_some_iff] at hd
  rwa [← hd]

lemma Ended.eq_false (h : Ended rest) (hp : boundaries.any p = false) :
    ∀ c ∈ rest.head?, p c = false := fun c hc => by simpa using List.any_eq_false.mp hp c (h c hc)

/-! ### Runs of characters -/

lemma length_takeWhile_le (p : Char → Bool) (cs : List Char) : (cs.takeWhile p).length ≤ cs.length :=
  (List.takeWhile_prefix p).length_le

lemma takeWhile_take_append (hrest : ∀ c ∈ rest.head?, p c = false)
    (hm : (cs.takeWhile p).length ≤ m) : (cs.take m ++ rest).takeWhile p = cs.takeWhile p := by
  have hnone : rest.takeWhile p = [] := by
    cases rest with
    | nil => rfl
    | cons c rest => exact List.takeWhile_cons_of_neg (by simp [hrest c rfl])
  induction cs generalizing m with
  | nil => rw [List.take_nil, List.nil_append, hnone, List.takeWhile_nil]
  | cons c cs ih =>
    by_cases hc : p c = true
    · rw [List.takeWhile_cons_of_pos hc, List.length_cons] at hm
      obtain ⟨m, rfl⟩ : ∃ k, m = k + 1 := ⟨m - 1, by omega⟩
      rw [List.take_succ_cons, List.cons_append, List.takeWhile_cons_of_pos hc,
        List.takeWhile_cons_of_pos hc, ih (by omega)]
    · rw [List.takeWhile_cons_of_neg hc]
      cases m with
      | zero => exact hnone
      | succ m => exact List.takeWhile_cons_of_neg hc

lemma takeWhile_take_append_of_lt (hm : (cs.takeWhile p).length < m)
    (hlt : (cs.takeWhile p).length < cs.length) (rest : List Char) :
    (cs.take m ++ rest).takeWhile p = cs.takeWhile p := by
  obtain ⟨m, rfl⟩ : ∃ k, m = k + 1 := ⟨m - 1, by omega⟩
  induction cs generalizing m with
  | nil => simp at hlt
  | cons c cs ih =>
    rw [List.take_succ_cons, List.cons_append]
    by_cases hc : p c = true
    · rw [List.takeWhile_cons_of_pos hc, List.length_cons] at hm hlt
      rw [List.length_cons] at hlt
      obtain ⟨m, rfl⟩ : ∃ k, m = k + 1 := ⟨m - 1, by omega⟩
      rw [List.takeWhile_cons_of_pos hc, List.takeWhile_cons_of_pos hc,
        ih (by omega) m (by omega)]
    · rw [List.takeWhile_cons_of_neg hc, List.takeWhile_cons_of_neg hc]

lemma drop_take_append {k : Nat} (hm : k ≤ m) (hk : k ≤ cs.length) :
    (cs.take m ++ rest).drop k = (cs.drop k).take (m - k) ++ rest := by
  rw [List.drop_append_of_le_length (by rw [List.length_take]; omega), List.drop_take]

/-! ### Strings -/

lemma stringFrom_bounds {length : Nat} (h : stringFrom length cs = some n) :
    length < n ∧ n ≤ length + cs.length := by
  fun_induction stringFrom length cs with
  | case1 length c cs ih =>
    have := ih h
    exact ⟨by omega, by simp only [List.length_cons]; omega⟩
  | case2 length cs =>
    cases h
    exact ⟨by omega, by simp only [List.length_cons]; omega⟩
  | case3 => cases h
  | case4 length c cs hescape hquote hbreak ih =>
    have := ih h
    exact ⟨by omega, by simp only [List.length_cons]; omega⟩
  | case5 => cases h

lemma stringFrom_take_append {length : Nat} (h : stringFrom length cs = some n) (hm : n ≤ length + m)
    (rest : List Char) : stringFrom length (cs.take m ++ rest) = some n := by
  fun_induction stringFrom length cs generalizing m with
  | case1 length c cs ih =>
    have hbounds := stringFrom_bounds h
    obtain ⟨m, rfl⟩ : ∃ k, m = k + 2 := ⟨m - 2, by omega⟩
    exact ih h (by omega)
  | case2 length cs =>
    cases h
    obtain ⟨m, rfl⟩ : ∃ k, m = k + 1 := ⟨m - 1, by omega⟩
    rfl
  | case3 => cases h
  | case4 length c cs hescape hquote hbreak ih =>
    have hbounds := stringFrom_bounds h
    obtain ⟨m, rfl⟩ : ∃ k, m = k + 1 := ⟨m - 1, by omega⟩
    rw [List.take_succ_cons, List.cons_append, stringFrom, ih h (by omega)]
    · rintro d ds rfl heq
      -- The rest of the string has a character of its own.
      cases cs with
      | nil => cases h
      | cons e cs => exact hescape e cs rfl rfl
    · exact hquote
    · exact hbreak
  | case5 => cases h

lemma tripleFrom_bounds {length : Nat} (h : tripleFrom length cs = some n) :
    length + 3 ≤ n ∧ n ≤ length + cs.length := by
  fun_induction tripleFrom length cs with
  | case1 length cs =>
    cases h
    have hle := length_takeWhile_le (· == '"') cs
    exact ⟨by omega, by simp only [List.length_cons]; omega⟩
  | case2 length c cs hquotes ih =>
    have := ih h
    exact ⟨by omega, by simp only [List.length_cons]; omega⟩
  | case3 => cases h

/-- A string in triple quotes ends where it does if no further quote comes behind it. -/
lemma tripleFrom_take_append {length : Nat} (h : tripleFrom length cs = some n) (hm : n ≤ length + m)
    (hrest : rest.head? ≠ some '"') : tripleFrom length (cs.take m ++ rest) = some n := by
  fun_induction tripleFrom length cs generalizing m with
  | case1 length cs =>
    cases h
    obtain ⟨m, rfl⟩ : ∃ k, m = k + 3 := ⟨m - 3, by omega⟩
    have hnot : ∀ c ∈ rest.head?, (c == '"') = false := by
      intro c hc
      rw [beq_eq_false_iff_ne]
      rintro rfl
      exact hrest hc
    simp only [List.take_succ_cons, List.cons_append, tripleFrom]
    rw [takeWhile_take_append hnot (by omega)]
  | case2 length c cs hquotes ih =>
    have hbounds := tripleFrom_bounds h
    obtain ⟨m, rfl⟩ : ∃ k, m = k + 1 := ⟨m - 1, by omega⟩
    rw [List.take_succ_cons, List.cons_append, tripleFrom, ih h (by omega)]
    rintro cs' rfl heq
    -- Two of the quotes that end the string would have to be in it.
    obtain ⟨m, rfl⟩ : ∃ k, m = k + 3 := ⟨m - 3, by omega⟩
    match cs, hbounds, hquotes with
    | [], hbounds, _ => simp at hbounds; omega
    | [d], hbounds, _ => simp at hbounds; omega
    | d :: e :: cs, _, hquotes =>
      simp only [List.take_succ_cons, List.cons_append, List.cons.injEq] at heq
      exact hquotes cs rfl (by rw [heq.1, heq.2.1])
  | case3 => cases h

lemma stringLength_bounds (h : stringLength cs = some n) : 1 ≤ n ∧ n ≤ cs.length := by
  unfold stringLength at h
  split at h
  · have := tripleFrom_bounds h
    simp only [List.length_cons]
    omega
  · have := stringFrom_bounds h
    simp only [List.length_cons]
    omega
  · cases h

lemma stringLength_take_append (h : stringLength cs = some n) (hm : n ≤ m)
    (hrest : rest.head? ≠ some '"') : stringLength (cs.take m ++ rest) = some n := by
  unfold stringLength at h
  split at h
  · have hbounds := tripleFrom_bounds h
    obtain ⟨m, rfl⟩ : ∃ k, m = k + 3 := ⟨m - 3, by omega⟩
    exact tripleFrom_take_append h (by omega) hrest
  · rename_i c cs hquotes
    have hbounds := stringFrom_bounds h
    obtain ⟨m, rfl⟩ : ∃ k, m = k + 1 := ⟨m - 1, by omega⟩
    have hsame := stringFrom_take_append h (m := m) (by omega) rest
    rw [List.take_succ_cons, List.cons_append, stringLength, hsame]
    rintro cs' rfl heq
    -- Only the empty string has a quote as its second character, and none comes behind it.
    obtain ⟨m, rfl⟩ : ∃ k, m = k + 1 := ⟨m - 1, by omega⟩
    cases cs with
    | nil => cases h
    | cons d cs =>
      simp only [List.take_succ_cons, List.cons_append, List.cons.injEq] at heq
      obtain ⟨rfl, heq⟩ := heq
      cases hcs : cs.take m with
      | nil => exact hrest (by rw [hcs] at heq; rw [← List.nil_append rest, heq]; rfl)
      | cons e es =>
        rw [hcs, List.cons_append, List.cons.injEq] at heq
        have hsplit := List.take_append_drop m cs
        rw [hcs, heq.1] at hsplit
        exact hquotes _ rfl (by rw [← hsplit]; rfl)
  · cases h

/-! ### Characters -/

/-- Length of an escaped character with what may come before the closing quote. -/
lemma charLength_escaped (a c : Char) (cs : List Char) : charLength (a :: '\\' :: c :: cs) =
    if (cs.takeWhile (· != '\x27')).length ≤ 5 ∧ (cs.takeWhile (· != '\x27')).length < cs.length ∧
      c ≠ '\n' ∧ '\n' ∉ cs.takeWhile (· != '\x27')
    then some ((cs.takeWhile (· != '\x27')).length + 4) else none := by
  simp [charLength, and_assoc]

lemma charLength_plain (a : Char) {c : Char} (hc : c ≠ '\\') (cs : List Char) :
    charLength (a :: c :: cs) =
      if cs.head? = some '\x27' ∧ c ≠ '\n' then some 3 else none := by
  unfold charLength
  split
  · rename_i heq
    cases heq
    exact absurd rfl hc
  · rename_i heq
    cases heq
    exact absurd rfl hc
  · rename_i heq
    cases heq
    simp
  · rename_i hquote
    refine (if_neg ?_).symm
    rintro ⟨hhead, -⟩
    obtain ⟨rest, rfl⟩ := List.head?_eq_some_iff.mp hhead
    exact hquote a c rest rfl

lemma charLength_bounds (h : charLength cs = some n) : 1 ≤ n ∧ n ≤ cs.length := by
  match cs, h with
  | [], h => cases h
  | [c], h => cases h
  | c :: d :: cs, h =>
    by_cases hd : d = '\\'
    · subst hd
      cases cs with
      | nil => cases h
      | cons e cs =>
        rw [charLength_escaped] at h
        split_ifs at h with hend
        cases h
        simp only [List.length_cons]
        omega
    · rw [charLength_plain c hd] at h
      split_ifs at h with hend
      cases h
      cases cs with
      | nil => simp at hend
      | cons e cs => simp only [List.length_cons]; omega

/-- A character ends where it does whatever comes behind it. -/
lemma charLength_take_append (h : charLength cs = some n) (hm : n ≤ m) (rest : List Char) :
    charLength (cs.take m ++ rest) = some n := by
  match cs, h with
  | [], h => cases h
  | [c], h => cases h
  | c :: d :: cs, h =>
    by_cases hd : d = '\\'
    · subst hd
      cases cs with
      | nil => cases h
      | cons e cs =>
        rw [charLength_escaped] at h
        split_ifs at h with hend
        cases h
        obtain ⟨m, rfl⟩ : ∃ k, m = k + 3 := ⟨m - 3, by omega⟩
        have hsame := takeWhile_take_append_of_lt (p := (· != '\x27')) (m := m) (by omega) hend.2.1 rest
        simp only [List.take_succ_cons, List.cons_append]
        rw [charLength_escaped, hsame, if_pos]
        refine ⟨hend.1, ?_, hend.2.2⟩
        rw [List.length_append, List.length_take]
        omega
    · rw [charLength_plain c hd] at h
      split_ifs at h with hend
      cases h
      obtain ⟨hquote, hbreak⟩ := hend
      obtain ⟨cs, rfl⟩ := List.head?_eq_some_iff.mp hquote
      obtain ⟨m, rfl⟩ : ∃ k, m = k + 3 := ⟨m - 3, by omega⟩
      simp only [List.take_succ_cons, List.cons_append]
      rw [charLength_plain c hd, if_pos ⟨rfl, hbreak⟩]

/-! ### Numbers -/

lemma digitsLength_le (cs : List Char) : digitsLength cs ≤ cs.length := length_takeWhile_le _ cs

lemma fractionLength_le (cs : List Char) : fractionLength cs ≤ cs.length := by
  unfold fractionLength
  split
  · rename_i cs
    have := digitsLength_le cs
    rw [List.length_cons]
    split_ifs <;> omega
  · exact Nat.zero_le _

lemma signLength_le (cs : List Char) : signLength cs ≤ cs.length := by
  cases cs with
  | nil => exact le_refl _
  | cons c cs =>
    simp only [signLength, List.length_cons]
    split_ifs <;> omega

lemma exponentLength_le (cs : List Char) : exponentLength cs ≤ cs.length := by
  cases cs with
  | nil => exact le_refl _
  | cons c cs =>
    have hdigits := digitsLength_le (cs.drop (signLength cs))
    have hsign := signLength_le cs
    rw [List.length_drop] at hdigits
    simp only [exponentLength, List.length_cons]
    split_ifs <;> omega

lemma suffixLength_le (cs : List Char) : suffixLength cs ≤ cs.length := by
  cases cs with
  | nil => exact le_refl _
  | cons c cs =>
    simp only [suffixLength, List.length_cons]
    split_ifs <;> omega

/-- Character of a whole number. -/
def isWholePart (c : Char) : Bool := Text.isDigit c || c == '_'

def wholeLength (cs : List Char) : Nat := (cs.takeWhile isWholePart).length

lemma wholeLength_le (cs : List Char) : wholeLength cs ≤ cs.length := length_takeWhile_le _ cs

lemma decimalLength_eq (cs : List Char) : decimalLength cs =
    wholeLength cs + fractionLength (cs.drop (wholeLength cs)) +
      exponentLength (cs.drop (wholeLength cs + fractionLength (cs.drop (wholeLength cs)))) := rfl

lemma decimalLength_le (cs : List Char) : decimalLength cs ≤ cs.length := by
  have hwhole := wholeLength_le cs
  have hfraction := fractionLength_le (cs.drop (wholeLength cs))
  have hexponent :=
    exponentLength_le (cs.drop (wholeLength cs + fractionLength (cs.drop (wholeLength cs))))
  rw [List.length_drop] at hfraction hexponent
  rw [decimalLength_eq]
  omega

lemma numberLength_eq (cs : List Char) :
    ∃ length, numberLength cs = length + suffixLength (cs.drop length) ∧
      ((∃ x digits, (x = 'x' ∨ x = 'X') ∧ cs = '0' :: x :: digits ∧
        length = 2 + (digits.takeWhile isHexPart).length) ∨
      ((∀ x digits, x = 'x' ∨ x = 'X' → cs ≠ '0' :: x :: digits) ∧ length = decimalLength cs)) := by
  unfold numberLength
  split
  · exact ⟨_, rfl, .inl ⟨_, _, .inl rfl, rfl, rfl⟩⟩
  · exact ⟨_, rfl, .inl ⟨_, _, .inr rfl, rfl, rfl⟩⟩
  · rename_i hx hX
    refine ⟨_, rfl, .inr ⟨?_, rfl⟩⟩
    rintro x digits (rfl | rfl) heq
    · exact hx digits heq
    · exact hX digits heq

lemma numberLength_le (cs : List Char) : numberLength cs ≤ cs.length := by
  obtain ⟨length, heq, hcase⟩ := numberLength_eq cs
  have hlength : length ≤ cs.length := by
    rcases hcase with ⟨x, digits, -, rfl, rfl⟩ | ⟨-, rfl⟩
    · have hle := length_takeWhile_le isHexPart digits
      simp only [List.length_cons]
      omega
    · exact decimalLength_le cs
  have hsuffix := suffixLength_le (cs.drop length)
  rw [List.length_drop] at hsuffix
  omega

lemma isDigit_boundaries : boundaries.any Text.isDigit = false := by decide +kernel

lemma isWholePart_boundaries : boundaries.any isWholePart = false := by decide +kernel

section Ended

variable (hrest : Ended rest)
include hrest

/-- Two characters that begin a text stand before what ends it, if neither may come first there. -/
lemma exists_of_append_ended {a b : Char} {ds es : List Char} (ha : a ∉ boundaries) (hb : b ∉ boundaries)
    (h : ds ++ rest = a :: b :: es) : ∃ ds', ds = a :: b :: ds' := by
  match ds, h with
  | [], h =>
    rw [List.nil_append] at h
    exact absurd (hrest a (by rw [h]; rfl)) ha
  | [c], h =>
    rw [List.singleton_append, List.cons.injEq] at h
    exact absurd (hrest b (by rw [h.2]; rfl)) hb
  | c :: d :: ds, h =>
    simp only [List.cons_append, List.cons.injEq] at h
    exact ⟨ds, by rw [h.1, h.2.1]⟩

lemma Ended.signLength_eq : signLength rest = 0 := by
  cases rest with
  | nil => rfl
  | cons c rest =>
    have hnone : boundaries.any (fun c => c = '+' || c = '-') = false := by decide +kernel
    exact if_neg (by rw [hrest.eq_false hnone c rfl]; decide)

lemma Ended.digitsLength_eq : digitsLength rest = 0 := by
  cases rest with
  | nil => rfl
  | cons c rest =>
    rw [digitsLength, List.takeWhile_cons_of_neg]
    · rfl
    · simp [hrest.eq_false isDigit_boundaries c rfl]

lemma Ended.exponentLength_eq : exponentLength rest = 0 := by
  cases rest with
  | nil => rfl
  | cons c rest =>
    have hnone : boundaries.any (fun c => c = 'e' || c = 'E') = false := by decide +kernel
    rw [exponentLength, hrest.eq_false hnone c rfl]
    rfl

lemma Ended.suffixLength_eq : suffixLength rest = 0 := by
  cases rest with
  | nil => rfl
  | cons c rest =>
    have hnone : boundaries.any ['l', 'L', 'f', 'F', 'd', 'D'].contains = false := by decide +kernel
    exact if_neg (by rw [hrest.eq_false hnone c rfl]; decide)

lemma digitsLength_take_append (hm : digitsLength cs ≤ m) :
    digitsLength (cs.take m ++ rest) = digitsLength cs := by
  unfold digitsLength at *
  rw [takeWhile_take_append (hrest.eq_false isDigit_boundaries) hm]

lemma fractionLength_take_append (hm : fractionLength cs ≤ m)
    (hpoint : cs.take m = [] → fractionLength rest = 0) :
    fractionLength (cs.take m ++ rest) = fractionLength cs := by
  cases hcs : cs.take m with
  | nil =>
    have hle := fractionLength_le cs
    rw [List.nil_append, hpoint hcs]
    rcases List.take_eq_nil_iff.mp hcs with rfl | rfl
    · omega
    · rfl
  | cons c ds =>
    obtain ⟨m, rfl⟩ : ∃ k, m = k + 1 := ⟨m - 1, by cases m <;> simp at hcs ⊢⟩
    cases cs with
    | nil => simp at hcs
    | cons d cs =>
      rw [List.take_succ_cons, List.cons.injEq] at hcs
      obtain ⟨rfl, rfl⟩ := hcs
      by_cases hd : d = '.'
      · subst hd
        simp only [fractionLength] at hm
        rw [List.cons_append, fractionLength, fractionLength,
          digitsLength_take_append hrest (by split_ifs at hm <;> omega)]
      · simp [fractionLength, hd]

lemma signLength_take_append (hm : signLength cs ≤ m) :
    signLength (cs.take m ++ rest) = signLength cs := by
  cases cs with
  | nil => rw [List.take_nil, List.nil_append, hrest.signLength_eq, signLength]
  | cons c cs =>
    cases m with
    | zero => rw [List.take_zero, List.nil_append, hrest.signLength_eq, Nat.le_zero.mp hm]
    | succ m => rfl

lemma suffixLength_take_append (hm : suffixLength cs ≤ m) :
    suffixLength (cs.take m ++ rest) = suffixLength cs := by
  cases cs with
  | nil => rw [List.take_nil, List.nil_append, hrest.suffixLength_eq, suffixLength]
  | cons c cs =>
    cases m with
    | zero => rw [List.take_zero, List.nil_append, hrest.suffixLength_eq, Nat.le_zero.mp hm]
    | succ m => rfl

lemma signedDigits_take_append (hm : digitsLength (cs.drop (signLength cs)) ≤ m - signLength cs) :
    digitsLength ((cs.take m ++ rest).drop (signLength (cs.take m ++ rest))) =
      digitsLength (cs.drop (signLength cs)) := by
  by_cases hsign : signLength cs ≤ m
  · rw [signLength_take_append hrest hsign, drop_take_append hsign (signLength_le cs),
      digitsLength_take_append hrest hm]
  · -- A sign that is not among the characters that stay has no digits behind it.
    have hone : signLength cs ≤ 1 := by
      cases cs with
      | nil => exact Nat.zero_le 1
      | cons c cs => rw [signLength]; split_ifs <;> omega
    obtain rfl : m = 0 := by omega
    rw [List.take_zero, List.nil_append, hrest.signLength_eq, List.drop_zero, hrest.digitsLength_eq]
    omega

lemma exponentLength_take_append (hm : exponentLength cs ≤ m) :
    exponentLength (cs.take m ++ rest) = exponentLength cs := by
  cases cs with
  | nil => rw [List.take_nil, List.nil_append, hrest.exponentLength_eq, exponentLength]
  | cons c cs =>
    cases m with
    | zero => rw [List.take_zero, List.nil_append, hrest.exponentLength_eq, Nat.le_zero.mp hm]
    | succ m =>
      rw [List.take_succ_cons, List.cons_append]
      simp only [exponentLength] at hm ⊢
      by_cases hletter : c = 'e' ∨ c = 'E'
      · by_cases hdigits : digitsLength (cs.drop (signLength cs)) = 0
        · rw [signedDigits_take_append hrest (by omega)]
          simp [hdigits]
        · rw [if_pos (by simp [hletter, hdigits])] at hm
          rw [signedDigits_take_append hrest (by omega), signLength_take_append hrest (by omega)]
      · simp [hletter]

/-- A number without its suffix stays. If it has nothing but digits, a point with digits behind it would go
on with it. -/
lemma decimalLength_take_append (hm : decimalLength cs ≤ m)
    (hpoint : (cs.take m).all isWholePart = true → fractionLength rest = 0) :
    decimalLength (cs.take m ++ rest) = decimalLength cs := by
  have hwhole := wholeLength_le cs
  have hfraction := fractionLength_le (cs.drop (wholeLength cs))
  rw [List.length_drop] at hfraction
  rw [decimalLength_eq] at hm ⊢
  have hsame : wholeLength (cs.take m ++ rest) = wholeLength cs := by
    unfold wholeLength at *
    rw [takeWhile_take_append (hrest.eq_false isWholePart_boundaries) (by omega)]
  have hafter : fractionLength ((cs.take m ++ rest).drop (wholeLength cs)) =
      fractionLength (cs.drop (wholeLength cs)) := by
    rw [drop_take_append (by omega) hwhole, fractionLength_take_append hrest (by omega)]
    intro hnil
    have hdigits : cs.take m = cs.takeWhile isWholePart := by
      rw [show m = wholeLength cs + (m - wholeLength cs) by omega, List.take_add, hnil, List.append_nil]
      exact (List.prefix_iff_eq_take.mp (List.takeWhile_prefix _)).symm
    rw [hdigits] at hpoint
    exact hpoint (List.all_eq_true.mpr fun c hc => List.mem_takeWhile_imp hc)
  rw [hsame, hafter, drop_take_append (by omega) (by omega),
    exponentLength_take_append hrest (by omega), ← decimalLength_eq]

/-- A number stays. If it has nothing but digits, a point with digits behind it would go on with it. -/
lemma numberLength_take_append (hm : numberLength cs ≤ m)
    (hpoint : (cs.take m).all isWholePart = true → fractionLength rest = 0) :
    numberLength (cs.take m ++ rest) = numberLength cs := by
  obtain ⟨length, heq, hcase⟩ := numberLength_eq cs
  obtain ⟨length', heq', hcase'⟩ := numberLength_eq (cs.take m ++ rest)
  rw [heq] at hm
  have hlength : length' = length ∧ length ≤ cs.length := by
    rcases hcase with ⟨x, digits, hx, rfl, rfl⟩ | ⟨hno, rfl⟩
    · have hle := length_takeWhile_le isHexPart digits
      refine ⟨?_, by simp only [List.length_cons]; omega⟩
      obtain ⟨m, rfl⟩ : ∃ k, m = k + 2 := ⟨m - 2, by omega⟩
      rw [List.take_succ_cons, List.take_succ_cons, List.cons_append, List.cons_append] at hcase'
      rcases hcase' with ⟨y, digits', hy, hsplit, rfl⟩ | ⟨hno, -⟩
      · simp only [List.cons.injEq, true_and] at hsplit
        rw [← hsplit.2, takeWhile_take_append (hrest.eq_false (by decide +kernel)) (by omega)]
      · exact absurd rfl (hno x _ hx)
    · refine ⟨?_, decimalLength_le cs⟩
      rcases hcase' with ⟨y, digits', hy, hsplit, -⟩ | ⟨-, rfl⟩
      · have hyne : y ∉ boundaries := by
          rcases hy with rfl | rfl <;> decide
        obtain ⟨ds, hds⟩ := exists_of_append_ended hrest (by decide) hyne hsplit
        have htake := List.take_append_drop m cs
        rw [hds] at htake
        exact absurd htake.symm (hno y _ hy)
      · exact decimalLength_take_append hrest (by omega) hpoint
  obtain ⟨rfl, hle⟩ := hlength
  rw [heq, heq', drop_take_append (by omega) hle, suffixLength_take_append hrest (by omega)]

end Ended

end ActorDiagram.Literal
