import Mathlib
import ActorDiagram.Proofs.Tiling

/-!
# Texts of lexemes

What the text of a lexeme may be, one way of writing it for each kind, and that each of these texts is
read as the same lexeme again, as long as what comes behind it does not go on with it.
-/

namespace ActorDiagram

/-! ### Letters, digits and blanks -/

namespace Text

/-- No range of one list meets a range of the other. -/
def apart (rs ss : List (Nat × Nat)) : Bool :=
  rs.all fun r => ss.all fun s => Nat.blt r.2 s.1 || Nat.blt s.2 r.1

lemma inRanges_eq_false_of_apart {rs ss : List (Nat × Nat)} (h : apart rs ss = true) {n : Nat}
    (hn : inRanges rs n = true) : inRanges ss n = false := by
  obtain ⟨r, hr, hlow, hhigh⟩ := inRanges_iff.mp hn
  refine Bool.eq_false_iff.mpr fun hm => ?_
  obtain ⟨s, hs, hlow', hhigh'⟩ := inRanges_iff.mp hm
  have hrs := List.all_eq_true.mp (List.all_eq_true.mp h r hr) s hs
  simp only [Bool.or_eq_true, Nat.blt_eq] at hrs
  omega

/-- Letters of every script. -/
def letters : List (Nat × Nat) := (65, 90) :: (97, 122) :: letterRanges

/-- Digits of every script. -/
def digits : List (Nat × Nat) := (48, 57) :: (decimalRanges ++ specialDigitRanges)

variable {c : Char}

lemma inRanges_of_isLetter (h : isLetter c = true) : inRanges letters c.toNat = true := by
  rw [inRanges_iff]
  unfold isLetter at h
  have hval : c.toNat = c.val.toNat := rfl
  split_ifs at h
  · simp only [Char.isAlpha, Char.isUpper, Char.isLower, Bool.or_eq_true, Bool.and_eq_true,
      decide_eq_true_eq, ge_iff_le, UInt32.le_iff_toNat_le] at h
    rcases h with h | h
    · exact ⟨(65, 90), by simp [letters], h⟩
    · exact ⟨(97, 122), by simp [letters], h⟩
  · obtain ⟨r, hr, hin⟩ := inRanges_iff.mp h
    exact ⟨r, List.mem_cons_of_mem _ (List.mem_cons_of_mem _ hr), hin⟩

lemma inRanges_of_isDigit (h : isDigit c = true) : inRanges digits c.toNat = true := by
  rw [inRanges_iff]
  unfold isDigit isDecimal at h
  have hval : c.toNat = c.val.toNat := rfl
  simp only [Bool.or_eq_true, Bool.and_eq_true, decide_eq_true_eq] at h
  rcases h with h | ⟨-, h⟩
  · split_ifs at h
    · simp only [Char.isDigit, Bool.and_eq_true, decide_eq_true_eq, ge_iff_le,
        UInt32.le_iff_toNat_le] at h
      exact ⟨(48, 57), by simp [digits], h⟩
    · obtain ⟨r, hr, hin⟩ := inRanges_iff.mp h
      exact ⟨r, List.mem_cons_of_mem _ (List.mem_append_left _ hr), hin⟩
  · obtain ⟨r, hr, hin⟩ := inRanges_iff.mp h
    exact ⟨r, List.mem_cons_of_mem _ (List.mem_append_right _ hr), hin⟩

lemma isLetter_eq_false_of_isDigit (h : isDigit c = true) : isLetter c = false := by
  have hapart : apart digits letters = true := by decide +kernel
  refine Bool.eq_false_iff.mpr fun hletter => ?_
  have hnot := inRanges_eq_false_of_apart hapart (inRanges_of_isDigit h)
  rw [inRanges_of_isLetter hletter] at hnot
  cases hnot

lemma isBlank_eq_false_of_isLetter (h : isLetter c = true) : isBlank c = false := by
  have hapart : apart letters blankRanges = true := by decide +kernel
  exact inRanges_eq_false_of_apart hapart (inRanges_of_isLetter h)

lemma isBlank_eq_false_of_isDigit (h : isDigit c = true) : isBlank c = false := by
  have hapart : apart digits blankRanges = true := by decide +kernel
  exact inRanges_eq_false_of_apart hapart (inRanges_of_isDigit h)

end Text

namespace Lexeme

open Literal

variable {c : Char} {cs word rest : List Char} {kind : TokenKind} {n : Nat}

lemma isIdentStart_eq_false_of_isDigit (h : Text.isDigit c = true) : isIdentStart c = false := by
  unfold isIdentStart
  rw [Text.isLetter_eq_false_of_isDigit h, Bool.false_or, Bool.or_eq_false_iff, beq_eq_false_iff_ne,
    beq_eq_false_iff_ne]
  constructor
  · rintro rfl
    exact absurd h (by decide)
  · rintro rfl
    exact absurd h (by decide)

lemma isBlank_eq_false_of_isIdentStart (h : isIdentStart c = true) : Text.isBlank c = false := by
  unfold isIdentStart at h
  simp only [Bool.or_eq_true, beq_iff_eq] at h
  rcases h with (h | rfl) | rfl
  · exact Text.isBlank_eq_false_of_isLetter h
  · decide
  · decide

/-! ### Texts -/

/-- What a lexeme of each kind says, but for words that need back quotes and for a quote alone. -/
inductive Written : TokenKind → List Char → Prop
  | identifier {word : List Char} (h : isBareWord word = true) : Written .identifier word
  | number {c : Char} {cs : List Char} (hc : Text.isDigit c = true)
    (h : numberLength (c :: cs) = (c :: cs).length) : Written .number (c :: cs)
  | string {cs : List Char} (h : stringLength ('"' :: cs) = some ('"' :: cs).length) :
    Written .string ('"' :: cs)
  | character {cs : List Char} (h : charLength ('\x27' :: cs) = some ('\x27' :: cs).length) :
    Written .character ('\x27' :: cs)
  | bracket {c : Char} (h : isBracket c = true) : Written .mark [c]
  | punctuation {c : Char} (h : c ∈ ['.', ',', ';', ':']) : Written .mark [c]
  | double {c d : Char} (h : isDoubleOp c d = true) : Written .operator [c, d]
  | single {c : Char} (hblank : Text.isBlank c = false) (hident : isIdentStart c = false)
    (hdigit : Text.isDigit c = false) (hbracket : isBracket c = false)
    (hplain : c ∉ ['.', ',', ';', ':', '"', '\x27', '\x60']) (harrow : singleOp c = [c]) :
    Written .operator [c]

/-- A literal is as long as what is left of its text. -/
lemma take_eq_cons {c : Char} {cs : List Char} {n : Nat} (hn : 1 ≤ n ∧ n ≤ (c :: cs).length) :
    ∃ ds, (c :: cs).take n = c :: ds ∧ (c :: ds).length = n := by
  obtain ⟨n, rfl⟩ : ∃ k, n = k + 1 := ⟨n - 1, by omega⟩
  refine ⟨cs.take n, List.take_succ_cons, ?_⟩
  rw [← List.take_succ_cons (a := c), List.length_take]
  omega

/-- An arrow of one character says the same as the one of two. -/
lemma singleOp_cases (c : Char) :
    singleOp c = [c] ∨ ∃ d e, singleOp c = [d, e] ∧ isDoubleOp d e = true := by
  unfold singleOp
  split_ifs
  · exact .inr ⟨_, _, rfl, by decide⟩
  · exact .inr ⟨_, _, rfl, by decide⟩
  · exact .inr ⟨_, _, rfl, by decide⟩
  · exact .inl rfl

lemma written_of_symbol (h : symbol c cs = .lexeme kind word n) (hblank : Text.isBlank c = false)
    (hident : isIdentStart c = false) (hdigit : Text.isDigit c = false) (hstring : c ≠ '"')
    (hquote : kind = .operator → word ≠ ['\x27'] ∧ word ≠ ['\x60']) : Written kind word := by
  rcases symbol_eq c cs with ⟨hs, hmark⟩ | ⟨d, ds, -, hdouble, hs⟩ | ⟨hs, hbracket, hmark⟩
  · rw [hs] at h
    cases h
    rcases hmark with hbracket | hmark
    · exact .bracket hbracket
    · exact .punctuation hmark
  · rw [hs] at h
    cases h
    exact .double hdouble
  · rw [hs] at h
    cases h
    rcases singleOp_cases c with hsame | ⟨d, e, harrow, hdouble⟩
    · rw [hsame] at hquote ⊢
      refine .single hblank hident hdigit hbracket ?_ hsame
      have hquote := hquote rfl
      simp only [ne_eq, List.cons.injEq, and_true, List.mem_cons, List.not_mem_nil, or_false,
        not_or] at hquote hmark ⊢
      exact ⟨hmark.1, hmark.2.1, hmark.2.2.1, hmark.2.2.2, hstring, hquote.1, hquote.2⟩
    · rw [harrow]
      exact .double hdouble

lemma written_of_literalOrSymbol (h : literalOrSymbol c cs = .ok (.lexeme kind word n))
    (hblank : Text.isBlank c = false) (hident : isIdentStart c = false)
    (hword : kind = .identifier → isBareWord word = true)
    (hquote : kind = .operator → word ≠ ['\x27'] ∧ word ≠ ['\x60']) : Written kind word := by
  unfold literalOrSymbol at h
  split at h
  · cases h
    exact .identifier (hword rfl)
  split_ifs at h with hdigit hstring hchar
  · cases h
    obtain ⟨ds, htake, hlength⟩ :=
      take_eq_cons ⟨one_le_numberLength hdigit cs, numberLength_le (c :: cs)⟩
    have hsame := numberLength_take_append ended_nil (le_refl (numberLength (c :: cs))) fun _ => rfl
    rw [List.append_nil, htake] at hsame
    rw [htake]
    exact .number hdigit (hsame.trans hlength.symm)
  · subst hstring
    split at h
    · rename_i length heq
      cases h
      obtain ⟨ds, htake, hlength⟩ := take_eq_cons (stringLength_bounds heq)
      have hend : ([] : List Char).head? ≠ some '"' := by simp
      have hsame := stringLength_take_append heq (le_refl _) hend
      rw [List.append_nil, htake, ← hlength] at hsame
      rw [htake]
      exact .string hsame
    · cases h
  · subst hchar
    split at h
    · rename_i length heq
      cases h
      obtain ⟨ds, htake, hlength⟩ := take_eq_cons (charLength_bounds heq)
      have hsame := charLength_take_append heq (le_refl _) []
      rw [List.append_nil, htake, ← hlength] at hsame
      rw [htake]
      exact .character hsame
    · exact written_of_symbol (Except.ok.inj h) hblank hident (by simpa using hdigit) hstring hquote
  · exact written_of_symbol (Except.ok.inj h) hblank hident (by simpa using hdigit) hstring hquote

/-- Lexemes of a text say what they may, unless a word needs back quotes or a quote stands alone. -/
theorem written_of_piece (h : piece c cs = .ok (.lexeme kind word n))
    (hword : kind = .identifier → isBareWord word = true)
    (hquote : kind = .operator → word ≠ ['\x27'] ∧ word ≠ ['\x60']) : Written kind word := by
  rw [piece_eq] at h
  split_ifs at h with hblank hline hblock hident
  · cases h
  · cases h
  · cases hlength : commentLength (c :: cs) <;> simp [hlength] at h
  · cases h
    exact .identifier (hword rfl)
  · exact written_of_literalOrSymbol h (by simpa using hblank) (by simpa using hident) hword hquote

/-- Characters that only symbols begin with: brackets, punctuation and the operators of two characters. -/
def symbolStarts : List Char :=
  ['(', ')', '[', ']', '{', '}', '.', ',', ';', ':', '=', '-', '<', '!', '>', '&', '|']

lemma not_of_symbolStart (h : c ∈ symbolStarts) :
    Text.isBlank c = false ∧ isIdentStart c = false ∧ Text.isDigit c = false := by
  have hall : symbolStarts.all (fun c => !Text.isBlank c && !isIdentStart c && !Text.isDigit c) =
      true := by decide +kernel
  have hc := List.all_eq_true.mp hall c h
  simp only [Bool.and_eq_true, Bool.not_eq_true'] at hc
  exact ⟨hc.1.1, hc.1.2, hc.2⟩

lemma symbolStart_of_bracket (h : isBracket c = true) : c ∈ symbolStarts ∧ c ≠ '=' := by
  have hmem : c ∈ ['(', ')', '[', ']', '{', '}'] := by simpa [isBracket] using h
  refine ⟨List.mem_append_left ['.', ',', ';', ':', '=', '-', '<', '!', '>', '&', '|'] hmem, ?_⟩
  rintro rfl
  exact absurd h (by decide)

lemma symbolStart_of_punctuation (h : c ∈ ['.', ',', ';', ':']) :
    c ∈ symbolStarts ∧ c ≠ '=' ∧ isBracket c = false := by
  simp only [List.mem_cons, List.not_mem_nil, or_false] at h
  rcases h with rfl | rfl | rfl | rfl <;> decide

lemma symbolStart_of_double {d : Char} (h : isDoubleOp c d = true) :
    c ∈ symbolStarts ∧ isBracket c = false := by
  simp only [isDoubleOp, List.contains_iff_mem, List.mem_cons, List.not_mem_nil, or_false,
    Prod.mk.injEq] at h
  rcases h with h | h | h | h | h | h | h | h | h | h <;> (rw [h.1]; decide)

/-- Only numbers begin with a digit, and only operators with an equals sign. -/
lemma Written.exists_head (h : Written kind word) : ∃ c cs, word = c :: cs ∧
    (Text.isDigit c = true → kind = .number) ∧ (c = '=' → kind = .operator) := by
  have hstart : ∀ {c}, c ∈ symbolStarts → Text.isDigit c = true → kind = .number := by
    intro c hc hdigit
    rw [(not_of_symbolStart hc).2.2] at hdigit
    cases hdigit
  cases h with
  | identifier h =>
    cases word with
    | nil => cases h
    | cons c cs =>
      simp only [isBareWord, Bool.and_eq_true] at h
      refine ⟨c, cs, rfl, fun hdigit => ?_, ?_⟩
      · rw [isIdentStart_eq_false_of_isDigit hdigit] at h
        cases h.1
      · rintro rfl
        exact absurd h.1 (by decide)
  | number hc h =>
    refine ⟨_, _, rfl, fun _ => rfl, ?_⟩
    rintro rfl
    exact absurd hc (by decide)
  | string | character =>
    exact ⟨_, _, rfl, fun hdigit => absurd hdigit (by decide), fun h => absurd h (by decide)⟩
  | bracket h =>
    obtain ⟨hc, hne⟩ := symbolStart_of_bracket h
    exact ⟨_, [], rfl, hstart hc, fun heq => absurd heq hne⟩
  | punctuation h =>
    obtain ⟨hc, hne, -⟩ := symbolStart_of_punctuation h
    exact ⟨_, [], rfl, hstart hc, fun heq => absurd heq hne⟩
  | double h => exact ⟨_, _, rfl, hstart (symbolStart_of_double h).1, fun _ => rfl⟩
  | single hblank hident hdigit =>
    refine ⟨_, [], rfl, fun hc => ?_, fun _ => rfl⟩
    rw [hdigit] at hc
    cases hc

/-! ### Reading a text again -/

/-- Text that does not go on with a lexeme of this kind in front of it. -/
def Separate (kind : TokenKind) (word rest : List Char) : Prop :=
  match kind with
  | .identifier | .string | .character => Ended rest
  | .number => Ended rest ∧ (word.all isWholePart = true → fractionLength rest = 0)
  | .mark => word = [':'] → rest.head? ≠ some ':'
  | .operator => if word = ['!'] then rest.head? ≠ some '=' else Ended rest

/-- This text is read as one lexeme of its kind in front of `rest`. -/
def ReadsAs (kind : TokenKind) (word rest : List Char) : Prop :=
  ∃ c cs, word = c :: cs ∧ piece c (cs ++ rest) = .ok (.lexeme kind word word.length)

lemma isIdentPart_boundaries : boundaries.any isIdentPart = false := by decide +kernel

lemma piece_of_not_gap (hblank : Text.isBlank c = false)
    (hslash : c = '/' → cs.head? ≠ some '/' ∧ cs.head? ≠ some '*') : piece c cs =
      if isIdentStart c then .ok (verbatim .identifier (1 + (cs.takeWhile isIdentPart).length) (c :: cs))
      else literalOrSymbol c cs := by
  rw [piece_eq, hblank, if_neg Bool.false_ne_true, if_neg (by simpa using fun h => (hslash h).1),
    if_neg (by simpa using fun h => (hslash h).2)]

lemma verbatim_append_length (kind : TokenKind) (word rest : List Char) :
    verbatim kind word.length (word ++ rest) = .lexeme kind word word.length := by
  rw [verbatim, List.take_left]

lemma backQuoted?_eq_none (hc : c ≠ '\x60') (cs : List Char) : backQuoted? c cs = none := by
  simp [backQuoted?, hc]

lemma readsAs_identifier (h : isBareWord word = true) (hrest : Ended rest) :
    ReadsAs .identifier word rest := by
  cases word with
  | nil => cases h
  | cons c cs =>
    simp only [isBareWord, Bool.and_eq_true, List.all_eq_true] at h
    have hword : (cs ++ rest).takeWhile isIdentPart = cs := by
      have hsame := takeWhile_take_append (hrest.eq_false isIdentPart_boundaries)
        (length_takeWhile_le isIdentPart cs)
      rwa [List.take_length, List.takeWhile_eq_self_iff.mpr h.2] at hsame
    refine ⟨c, cs, rfl, ?_⟩
    rw [piece_of_not_gap (isBlank_eq_false_of_isIdentStart h.1), if_pos h.1, hword, Nat.add_comm,
      ← List.length_cons (a := c), ← List.cons_append, verbatim_append_length]
    rintro rfl
    exact absurd h.1 (by decide)

lemma readsAs_number (hc : Text.isDigit c = true) (h : numberLength (c :: cs) = (c :: cs).length)
    (hrest : Ended rest) (hpoint : (c :: cs).all isWholePart = true → fractionLength rest = 0) :
    ReadsAs .number (c :: cs) rest := by
  have hsame := numberLength_take_append hrest (le_of_eq h) (by rwa [List.take_length])
  rw [List.take_length, h] at hsame
  refine ⟨c, cs, rfl, ?_⟩
  rw [piece_of_not_gap (Text.isBlank_eq_false_of_isDigit hc), isIdentStart_eq_false_of_isDigit hc,
    if_neg Bool.false_ne_true, literalOrSymbol, backQuoted?_eq_none]
  · simp only [hc, if_true]
    rw [← List.cons_append, hsame, verbatim_append_length]
  · rintro rfl
    exact absurd hc (by decide)
  · rintro rfl
    exact absurd hc (by decide)

lemma readsAs_string (h : stringLength ('"' :: cs) = some ('"' :: cs).length) (hrest : Ended rest) :
    ReadsAs .string ('"' :: cs) rest := by
  have hquote : rest.head? ≠ some '"' := fun hhead => absurd (hrest '"' hhead) (by decide)
  have hsame := stringLength_take_append h (le_refl _) hquote
  rw [List.take_length] at hsame
  refine ⟨'"', cs, rfl, ?_⟩
  rw [piece_of_not_gap (by decide) fun h => absurd h (by decide), if_neg (by decide), literalOrSymbol,
    backQuoted?_eq_none (by decide), ← List.cons_append]
  simp only [hsame]
  rw [if_neg (by decide), if_pos trivial, verbatim_append_length]

lemma readsAs_character (h : charLength ('\x27' :: cs) = some ('\x27' :: cs).length) (rest : List Char) :
    ReadsAs .character ('\x27' :: cs) rest := by
  have hsame := charLength_take_append h (le_refl _) rest
  rw [List.take_length] at hsame
  refine ⟨'\x27', cs, rfl, ?_⟩
  rw [piece_of_not_gap (by decide) fun h => absurd h (by decide), if_neg (by decide), literalOrSymbol,
    backQuoted?_eq_none (by decide), ← List.cons_append]
  simp only [hsame]
  rw [if_neg (by decide), if_neg (by decide), if_pos trivial, verbatim_append_length]

/-- Symbols are what is neither word nor literal. -/
lemma piece_of_symbol (hblank : Text.isBlank c = false) (hident : isIdentStart c = false)
    (hdigit : Text.isDigit c = false) (hquote : c ∉ ['"', '\x27', '\x60'])
    (hslash : c = '/' → cs.head? ≠ some '/' ∧ cs.head? ≠ some '*') :
    piece c cs = .ok (symbol c cs) := by
  simp only [List.mem_cons, List.not_mem_nil, or_false, not_or] at hquote
  rw [piece_of_not_gap hblank hslash, hident, if_neg Bool.false_ne_true, literalOrSymbol,
    backQuoted?_eq_none hquote.2.2]
  simp only [hdigit, hquote.1, hquote.2.1, if_false, Bool.false_eq_true]

lemma piece_of_symbolStart (h : c ∈ symbolStarts) (cs : List Char) : piece c cs = .ok (symbol c cs) := by
  obtain ⟨hblank, hident, hdigit⟩ := not_of_symbolStart h
  have hne : ∀ d, d ∉ symbolStarts → c ≠ d := fun d hd heq => hd (heq ▸ h)
  refine piece_of_symbol hblank hident hdigit ?_ fun hslash => absurd hslash (hne '/' (by decide))
  simp only [List.mem_cons, List.not_mem_nil, or_false, not_or]
  exact ⟨hne '"' (by decide), hne '\x27' (by decide), hne '\x60' (by decide)⟩

lemma symbol_of_not_double (hbracket : isBracket c = false)
    (hdouble : ∀ d ∈ cs.head?, isDoubleOp c d = false) : symbol c cs =
      if ['.', ',', ';', ':'].contains c then .lexeme .mark [c] 1
      else .lexeme .operator (singleOp c) 1 := by
  unfold symbol
  rw [hbracket, if_neg Bool.false_ne_true]
  cases cs with
  | nil => rfl
  | cons d ds =>
    simp only
    rw [hdouble d rfl, if_neg Bool.false_ne_true]

lemma readsAs_bracket (h : isBracket c = true) (rest : List Char) : ReadsAs .mark [c] rest := by
  refine ⟨c, [], rfl, ?_⟩
  rw [piece_of_symbolStart (symbolStart_of_bracket h).1]
  unfold symbol
  rw [if_pos h]
  rfl

lemma readsAs_punctuation (h : c ∈ ['.', ',', ';', ':'])
    (hrest : [c] = [':'] → rest.head? ≠ some ':') : ReadsAs .mark [c] rest := by
  have hdouble : ∀ d ∈ rest.head?, isDoubleOp c d = false := by
    intro d hd
    simp only [List.mem_cons, List.not_mem_nil, or_false] at h
    rcases h with rfl | rfl | rfl | rfl
    · simp [isDoubleOp]
    · simp [isDoubleOp]
    · simp [isDoubleOp]
    · have hcolon : d ≠ ':' := by
        rintro rfl
        exact hrest rfl hd
      simp [isDoubleOp, hcolon]
  obtain ⟨hstart, -, hbracket⟩ := symbolStart_of_punctuation h
  refine ⟨c, [], rfl, ?_⟩
  rw [List.nil_append, piece_of_symbolStart hstart, symbol_of_not_double hbracket hdouble,
    if_pos (by simpa using h)]
  rfl

lemma readsAs_double {d : Char} (h : isDoubleOp c d = true) (rest : List Char) :
    ReadsAs .operator [c, d] rest := by
  obtain ⟨hstart, hbracket⟩ := symbolStart_of_double h
  refine ⟨c, [d], rfl, ?_⟩
  rw [piece_of_symbolStart hstart]
  unfold symbol
  rw [hbracket, if_neg Bool.false_ne_true]
  simp only [List.cons_append, h, if_true]
  rfl

lemma readsAs_single (hblank : Text.isBlank c = false) (hident : isIdentStart c = false)
    (hdigit : Text.isDigit c = false) (hbracket : isBracket c = false)
    (hplain : c ∉ ['.', ',', ';', ':', '"', '\x27', '\x60']) (harrow : singleOp c = [c])
    (hrest : if [c] = ['!'] then rest.head? ≠ some '=' else Ended rest) : ReadsAs .operator [c] rest := by
  simp only [List.mem_cons, List.not_mem_nil, or_false, not_or] at hplain
  obtain ⟨hdot, hcomma, hsemicolon, hcolon, hquotes⟩ := hplain
  have hdouble : ∀ d ∈ rest.head?, isDoubleOp c d = false := by
    intro d hd
    by_cases hnot : c = '!'
    · subst hnot
      have hd : d ≠ '=' := by
        rintro rfl
        exact hrest hd
      simp [isDoubleOp, hd]
    · rw [if_neg (by simpa using hnot)] at hrest
      have hd := hrest d hd
      simp only [boundaries, List.mem_cons, List.not_mem_nil, or_false] at hd
      rcases hd with rfl | rfl | rfl | rfl | rfl | rfl | rfl | rfl | rfl | rfl <;>
        simp [isDoubleOp, hcolon]
  refine ⟨c, [], rfl, ?_⟩
  rw [List.nil_append, piece_of_symbol hblank hident hdigit (by simpa using hquotes),
    symbol_of_not_double hbracket hdouble, if_neg (by simp [hdot, hcomma, hsemicolon, hcolon]), harrow]
  · rfl
  · rintro rfl
    rw [if_neg (by decide)] at hrest
    exact ⟨fun h => absurd (hrest '/' h) (by decide), fun h => absurd (hrest '*' h) (by decide)⟩

/-- The text of a lexeme is read as it in front of everything that does not go on with it. -/
theorem Written.readsAs (h : Written kind word) (hrest : Separate kind word rest) :
    ReadsAs kind word rest := by
  cases h with
  | identifier h => exact readsAs_identifier h hrest
  | number hc h => exact readsAs_number hc h hrest.1 hrest.2
  | string h => exact readsAs_string h hrest
  | character h => exact readsAs_character h rest
  | bracket h => exact readsAs_bracket h rest
  | punctuation h => exact readsAs_punctuation h hrest
  | double h => exact readsAs_double h rest
  | single hblank hident hdigit hbracket hplain harrow =>
    exact readsAs_single hblank hident hdigit hbracket hplain harrow hrest

end Lexeme

end ActorDiagram
