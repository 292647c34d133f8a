import Mathlib
import ActorDiagram.Proofs.Extents
import ActorDiagram.Source.Lexeme

/-!
# Texts on lines of their own

A text is cut into the same lexemes when a line break and more text come after it: no lexeme that is
complete goes on behind a line break. What comes after the break is cut as it would be on its own, and lies
some lines further down.
-/

namespace ActorDiagram

/-! ### Extents of literals -/

namespace Literal

variable {cs ds : List Char}

lemma takeWhile_append_break {p : Char → Bool} (hp : p '\n' = false) (cs ds : List Char) :
    (cs ++ '\n' :: ds).takeWhile p = cs.takeWhile p := by
  have hend : ∀ c ∈ ('\n' :: ds).head?, p c = false := by simp [hp]
  have hsame := takeWhile_take_append hend (length_takeWhile_le p cs)
  rwa [List.take_length] at hsame

lemma commentFrom_append {depth length n : Nat} (h : commentFrom depth length cs = some n) (ds : List Char) :
    commentFrom depth length (cs ++ ds) = some n ∧ length < n ∧ n ≤ length + cs.length := by
  fun_induction commentFrom depth length cs with
  | case1 depth length cs ih =>
    obtain ⟨heq, hlt, hle⟩ := ih h
    exact ⟨heq, by omega, by simp only [List.length_cons]; omega⟩
  | case2 length cs =>
    cases h
    exact ⟨rfl, by omega, by simp only [List.length_cons]; omega⟩
  | case3 depth length cs hdepth ih =>
    obtain ⟨heq, hlt, hle⟩ := ih h
    refine ⟨?_, by omega, by simp only [List.length_cons]; omega⟩
    rw [List.cons_append, List.cons_append, commentFrom, if_neg hdepth, heq]
  | case4 depth length c cs hopen hclose ih =>
    obtain ⟨heq, hlt, hle⟩ := ih h
    refine ⟨?_, by omega, by simp only [List.length_cons]; omega⟩
    cases cs with
    | nil => cases h
    | cons d cs =>
      rw [List.cons_append, List.cons_append, commentFrom, ← List.cons_append, heq]
      · rintro cs' rfl heq'
        cases heq'
        exact hopen _ rfl rfl
      · rintro cs' rfl heq'
        cases heq'
        exact hclose _ rfl rfl
  | case5 => cases h

lemma commentLength_append {n : Nat} (h : commentLength cs = some n) (ds : List Char) :
    commentLength (cs ++ ds) = some n ∧ 1 ≤ n ∧ n ≤ cs.length := by
  obtain ⟨heq, hlt, hle⟩ := commentFrom_append h ds
  exact ⟨heq, hlt, by omega⟩

lemma stringLength_append {n : Nat} (h : stringLength cs = some n) (ds : List Char) :
    stringLength (cs ++ '\n' :: ds) = some n ∧ 1 ≤ n ∧ n ≤ cs.length := by
  have hbounds := stringLength_bounds h
  have hend : ('\n' :: ds).head? ≠ some '"' := by simp
  have hsame := stringLength_take_append h hbounds.2 hend
  rw [List.take_length] at hsame
  exact ⟨hsame, hbounds⟩

lemma charLength_append (c : Char) (cs ds : List Char) :
    charLength (c :: (cs ++ '\n' :: ds)) = charLength (c :: cs) := by
  match cs with
  | [] =>
    rw [List.nil_append, charLength_plain c (by decide), if_neg (by simp)]
    rfl
  | d :: cs =>
    rw [List.cons_append]
    by_cases hd : d = '\\'
    · subst hd
      cases cs with
      | nil =>
        rw [List.nil_append, charLength_escaped, if_neg (by simp)]
        rfl
      | cons e cs =>
        have hle := length_takeWhile_le (· != '\x27') cs
        rw [List.cons_append, charLength_escaped, charLength_escaped, List.takeWhile_append]
        by_cases hall : (cs.takeWhile (· != '\x27')).length = cs.length
        · -- Without a closing quote before it, the break would be part of the literal.
          rw [if_pos hall, if_neg (by simp), if_neg (by omega)]
        · rw [if_neg hall, List.length_append]
          simp only [show (cs.takeWhile (· != '\x27')).length < cs.length by omega,
            show (cs.takeWhile (· != '\x27')).length < cs.length + ('\n' :: ds).length by omega]
    · rw [charLength_plain c hd, charLength_plain c hd]
      cases cs <;> simp

lemma numberLength_append (cs ds : List Char) :
    numberLength (cs ++ '\n' :: ds) = numberLength cs ∧ numberLength cs ≤ cs.length := by
  have hended : Ended ('\n' :: ds) := ended_cons (by decide) ds
  have hsame := numberLength_take_append hended (numberLength_le cs) fun _ => rfl
  rw [List.take_length] at hsame
  exact ⟨hsame, numberLength_le cs⟩

lemma one_le_numberLength {c : Char} (hc : Text.isDigit c = true) (cs : List Char) :
    1 ≤ numberLength (c :: cs) := by
  obtain ⟨length, heq, ⟨_, _, _, _, rfl⟩ | ⟨_, rfl⟩⟩ := numberLength_eq (c :: cs)
  · rw [heq]
    omega
  · have hwhole : 1 ≤ ((c :: cs).takeWhile fun c => Text.isDigit c || c == '_').length := by
      rw [List.takeWhile_cons_of_pos (by simp [hc]), List.length_cons]
      omega
    rw [heq]
    simp only [decimalLength]
    omega

end Literal

/-! ### Pieces -/

namespace Lexeme

open Literal

variable {c : Char} {cs ds : List Char}

/-- Number of characters that a piece is written with. -/
def Piece.length : Piece → Nat
  | .gap n => n
  | .lexeme _ _ n => n

lemma backQuoted?_append (c : Char) (cs ds : List Char) :
    backQuoted? c (cs ++ '\n' :: ds) = backQuoted? c cs := by
  have hle := length_takeWhile_le (fun d => d != '\x60' && d != '\n') cs
  simp only [backQuoted?, takeWhile_append_break (p := fun d => d != '\x60' && d != '\n') (by decide),
    List.drop_append_of_le_length hle]
  cases cs.drop (cs.takeWhile fun d => d != '\x60' && d != '\n').length <;> simp

lemma length_of_backQuoted? {word : List Char} (h : backQuoted? c cs = some word) :
    word.length + 2 ≤ (c :: cs).length := by
  unfold backQuoted? at h
  simp only [Option.ite_none_right_eq_some, Bool.and_eq_true, decide_eq_true_eq, beq_iff_eq,
    Option.some.injEq] at h
  obtain ⟨⟨-, hnext⟩, rfl⟩ := h
  have hle := length_takeWhile_le (fun d => d != '\x60' && d != '\n') cs
  have hne : (cs.takeWhile fun d => d != '\x60' && d != '\n').length ≠ cs.length := by
    intro heq
    rw [heq, List.drop_length] at hnext
    cases hnext
  rw [List.length_cons]
  omega

lemma symbol_append (c : Char) (cs ds : List Char) : symbol c (cs ++ '\n' :: ds) = symbol c cs := by
  cases cs with
  | nil =>
    have hno : isDoubleOp c '\n' = false := by simp [isDoubleOp]
    simp [symbol, hno]
  | cons d cs => rfl

lemma length_symbol (c : Char) (cs : List Char) :
    1 ≤ (symbol c cs).length ∧ (symbol c cs).length ≤ (c :: cs).length := by
  cases cs with
  | nil =>
    unfold symbol
    split_ifs <;> simp [Piece.length]
  | cons d cs =>
    simp only [symbol]
    split_ifs <;> simp [Piece.length]

lemma verbatim_append {kind : TokenKind} {n : Nat} {p : Piece} (hn : 1 ≤ n ∧ n ≤ cs.length)
    (h : (.ok (verbatim kind n cs) : Except Cause Piece) = .ok p) (ds : List Char) :
    (.ok (verbatim kind n (cs ++ ds)) : Except Cause Piece) = .ok p ∧ 1 ≤ p.length ∧
      p.length ≤ cs.length := by
  cases h
  rw [verbatim, List.take_append_of_le_length hn.2]
  exact ⟨rfl, hn⟩

/-- First piece of a text that begins with no blank, no comment and no letter. -/
def literalOrSymbol (c : Char) (cs : List Char) : Except Cause Piece :=
  match backQuoted? c cs with
  | some word => .ok (.lexeme .identifier word (word.length + 2))
  | none =>
    if Text.isDigit c then .ok (verbatim .number (numberLength (c :: cs)) (c :: cs))
    else if c = '"' then
      match stringLength (c :: cs) with
      | some length => .ok (verbatim .string length (c :: cs))
      | none => .error .unterminatedString
    else if c = '\x27' then
      match charLength (c :: cs) with
      | some length => .ok (verbatim .character length (c :: cs))
      | none => .ok (symbol c cs)
    else .ok (symbol c cs)

lemma piece_eq (c : Char) (cs : List Char) : piece c cs =
    if Text.isBlank c then .ok (.gap 1)
    else if c = '/' && cs.head? == some '/' then
      .ok (.gap (1 + (cs.takeWhile (· != '\n')).length))
    else if c = '/' && cs.head? == some '*' then
      match commentLength (c :: cs) with
      | some length => .ok (.gap length)
      | none => .error .unterminatedComment
    else if isIdentStart c then
      .ok (verbatim .identifier (1 + (cs.takeWhile isIdentPart).length) (c :: cs))
    else literalOrSymbol c cs := rfl

lemma literalOrSymbol_append {p : Piece} (h : literalOrSymbol c cs = .ok p) (ds : List Char) :
    literalOrSymbol c (cs ++ '\n' :: ds) = .ok p ∧ 1 ≤ p.length ∧ p.length ≤ (c :: cs).length := by
  unfold literalOrSymbol at h ⊢
  rw [backQuoted?_append, symbol_append, ← List.cons_append]
  cases hquoted : backQuoted? c cs with
  | some word =>
    simp only [hquoted] at h
    cases h
    exact ⟨rfl, by simp only [Piece.length]; omega, length_of_backQuoted? hquoted⟩
  | none =>
    simp only [hquoted] at h ⊢
    by_cases hdigit : Text.isDigit c = true
    · rw [if_pos hdigit] at h ⊢
      obtain ⟨hsame, hle⟩ := numberLength_append (c :: cs) ds
      rw [hsame]
      exact verbatim_append ⟨one_le_numberLength hdigit cs, hle⟩ h ('\n' :: ds)
    rw [if_neg hdigit] at h ⊢
    by_cases hstring : c = '"'
    · rw [if_pos hstring] at h ⊢
      cases hlength : stringLength (c :: cs) with
      | none => simp [hlength] at h
      | some n =>
        obtain ⟨hsame, hn⟩ := stringLength_append hlength ds
        simp only [hlength] at h
        simp only [hsame]
        exact verbatim_append hn h ('\n' :: ds)
    rw [if_neg hstring] at h ⊢
    by_cases hchar : c = '\x27'
    · rw [if_pos hchar] at h ⊢
      rw [List.cons_append, charLength_append, ← List.cons_append]
      cases hlength : charLength (c :: cs) with
      | none =>
        simp only [hlength] at h
        cases h
        exact ⟨rfl, length_symbol c cs⟩
      | some n =>
        simp only [hlength] at h
        exact verbatim_append (charLength_bounds hlength) h ('\n' :: ds)
    · rw [if_neg hchar] at h ⊢
      cases h
      exact ⟨rfl, length_symbol c cs⟩

/-- A piece is the same when a line break comes after the text, and lies in the text. -/
theorem piece_append {p : Piece} (h : piece c cs = .ok p) (ds : List Char) :
    piece c (cs ++ '\n' :: ds) = .ok p ∧ 1 ≤ p.length ∧ p.length ≤ (c :: cs).length := by
  have hhead : ∀ d, d ≠ '\n' → ((cs ++ '\n' :: ds).head? == some d) = (cs.head? == some d) := by
    intro d hd
    cases cs <;> simp [hd.symm]
  rw [piece_eq] at h ⊢
  rw [hhead '/' (by decide), hhead '*' (by decide), takeWhile_append_break (by decide),
    takeWhile_append_break (p := isIdentPart) (by decide), ← List.cons_append]
  by_cases hblank : Text.isBlank c = true
  · rw [if_pos hblank] at h ⊢
    cases h
    simp [Piece.length]
  rw [if_neg hblank] at h ⊢
  by_cases hline : (decide (c = '/') && cs.head? == some '/') = true
  · rw [if_pos hline] at h ⊢
    cases h
    have hle := length_takeWhile_le (· != '\n') cs
    simp only [Piece.length, List.length_cons]
    exact ⟨trivial, by omega, by omega⟩
  rw [if_neg hline] at h ⊢
  by_cases hblock : (decide (c = '/') && cs.head? == some '*') = true
  · rw [if_pos hblock] at h ⊢
    cases hlength : commentLength (c :: cs) with
    | none => simp [hlength] at h
    | some n =>
      obtain ⟨heq, hbounds⟩ := commentLength_append hlength ('\n' :: ds)
      simp only [hlength] at h
      cases h
      rw [heq]
      exact ⟨rfl, hbounds⟩
  rw [if_neg hblock] at h ⊢
  by_cases hident : isIdentStart c = true
  · rw [if_pos hident] at h ⊢
    have hle := length_takeWhile_le isIdentPart cs
    exact verbatim_append ⟨by omega, by rw [List.length_cons]; omega⟩ h ('\n' :: ds)
  rw [if_neg hident] at h ⊢
  exact literalOrSymbol_append h ds

end Lexeme

/-! ### Places -/

/-- Place some characters and lines further on. -/
def Position.forward (k n : Nat) (p : Position) : Position := ⟨p.offset + k, p.line + n, p.column⟩

/-- Lexeme some characters and lines further on. -/
def Lexeme.forward (k n : Nat) (t : Lexeme) : Lexeme := { t with start := t.start.forward k n }

/-- Failure at a place some lines further on. -/
def Error.forward (n : Nat) : Error → Error
  | .source cause line column => .source cause (line.map (· + (n : Int))) column
  | e => e

namespace Position

lemma next_forward (k n : Nat) (p : Position) (c : Char) :
    (p.forward k n).next c = (p.next c).forward k n := by
  unfold next forward
  split_ifs
  · simp only [Position.mk.injEq, and_true]
    omega
  · simp only [Position.mk.injEq, and_true]
    omega

lemma after_forward (k n : Nat) (p : Position) (cs : List Char) :
    (p.forward k n).after cs = (p.after cs).forward k n := by
  induction cs generalizing p with
  | nil => rfl
  | cons c cs ih =>
    change ((p.forward k n).next c).after cs = ((p.next c).after cs).forward k n
    rw [next_forward, ih]

/-- The place after a line break depends on the numbers of characters and lines before it only. -/
lemma after_break (p : Position) (cs : List Char) :
    p.after (cs ++ ['\n']) = ⟨p.offset + cs.length + 1, p.line + cs.count '\n' + 1, 1⟩ := by
  induction cs generalizing p with
  | nil => rfl
  | cons c cs ih =>
    change (p.next c).after (cs ++ ['\n']) = _
    rw [ih, List.length_cons, List.count_cons]
    unfold next
    by_cases hc : c = '\n'
    · simp only [hc, if_true, beq_self_eq_true, Position.mk.injEq, and_true]
      omega
    · simp only [hc, if_false, beq_iff_eq, Position.mk.injEq, and_true]
      omega

end Position

/-! ### Scanning -/

namespace Lexeme

variable {p : Position} {cs ds : List Char} {ls : List Lexeme} {fuel fuel' : Nat}

/-- A text that starts further on is cut into the same lexemes, further on. -/
theorem scan_forward (k n fuel : Nat) (p : Position) (cs : List Char) :
    scan fuel (p.forward k n) cs =
      ((scan fuel p cs).map (List.map (·.forward k n))).mapError (Error.forward n) := by
  induction fuel generalizing p cs with
  | zero => cases cs <;> rfl
  | succ fuel ih =>
    cases cs with
    | nil => rfl
    | cons c cs =>
      rw [scan, scan]
      cases piece c cs with
      | error cause => simp [Except.map, Except.mapError, Error.forward, Position.forward]
      | ok found =>
        cases found with
        | gap m =>
          simp only
          rw [Position.after_forward, ih]
        | lexeme kind word m =>
          simp only
          rw [Position.after_forward, ih]
          cases scan fuel (p.after ((c :: cs).take m)) ((c :: cs).drop m) <;> rfl

/-- Any fuel that reaches the end of a text is enough. -/
theorem scan_fuel (h : cs.length ≤ fuel) (h' : cs.length ≤ fuel') :
    scan fuel p cs = scan fuel' p cs := by
  induction fuel generalizing fuel' p cs with
  | zero =>
    obtain rfl : cs = [] := List.eq_nil_of_length_eq_zero (by omega)
    cases fuel' <;> rfl
  | succ fuel ih =>
    cases cs with
    | nil => cases fuel' <;> rfl
    | cons c cs =>
      rw [List.length_cons] at h h'
      obtain ⟨fuel', rfl⟩ : ∃ n, fuel' = n + 1 := ⟨fuel' - 1, by omega⟩
      rw [scan, scan]
      cases hpiece : piece c cs with
      | error cause => rfl
      | ok found =>
        obtain ⟨-, hlength, -⟩ := piece_append hpiece []
        have hdrop : ((c :: cs).drop found.length).length ≤ cs.length := by
          rw [List.length_drop, List.length_cons]
          omega
        cases found with
        | gap n => exact ih (hdrop.trans (by omega)) (hdrop.trans (by omega))
        | lexeme kind word n =>
          simp only [Piece.length] at hdrop ⊢
          rw [show scan fuel _ _ = scan fuel' _ _ from
            ih (hdrop.trans (by omega)) (hdrop.trans (by omega))]

lemma scan_break (h : scan fuel p [] = .ok ls) {whole : Nat} (hwhole : 1 + ds.length ≤ whole)
    (hds : ds.length ≤ fuel') :
    scan whole p ('\n' :: ds) = (scan fuel' (p.after ['\n']) ds).map (ls ++ ·) := by
  obtain rfl : ls = [] := by
    cases fuel <;> (cases h; rfl)
  obtain ⟨whole, rfl⟩ : ∃ n, whole = n + 1 := ⟨whole - 1, by omega⟩
  have hpiece : piece '\n' ds = .ok (.gap 1) := if_pos (by decide)
  have hrest : scan whole (p.after ['\n']) ds = scan fuel' (p.after ['\n']) ds :=
    scan_fuel (by omega) hds
  rw [scan, hpiece]
  simp only [List.take_succ_cons, List.take_zero, List.drop_succ_cons, List.drop_zero, hrest]
  cases scan fuel' (p.after ['\n']) ds <;> rfl

/-- A text that is cut into lexemes is cut in the same way before a line break, and what comes after the
break is cut from there on. -/
theorem scan_append (h : scan fuel p cs = .ok ls) (hcs : cs.length ≤ fuel) {whole : Nat}
    (hwhole : cs.length + 1 + ds.length ≤ whole) (hds : ds.length ≤ fuel') :
    scan whole p (cs ++ '\n' :: ds) = (scan fuel' (p.after (cs ++ ['\n'])) ds).map (ls ++ ·) := by
  induction fuel generalizing whole p cs ls with
  | zero =>
    obtain rfl : cs = [] := List.eq_nil_of_length_eq_zero (by omega)
    exact scan_break h (by simpa using hwhole) hds
  | succ fuel ih =>
    obtain ⟨whole, rfl⟩ : ∃ n, whole = n + 1 := ⟨whole - 1, by omega⟩
    cases cs with
    | nil => exact scan_break h (by simpa using hwhole) hds
    | cons c cs =>
      rw [List.length_cons] at hcs hwhole
      rw [scan] at h
      rw [List.cons_append, scan]
      cases hpiece : piece c cs with
      | error cause => simp [hpiece] at h
      | ok found =>
        obtain ⟨hsame, hlength, hle⟩ := piece_append hpiece ds
        have hdrop : ((c :: cs).drop found.length).length + found.length = cs.length + 1 := by
          rw [List.length_drop, List.length_cons]
          rw [List.length_cons] at hle
          omega
        -- After the first piece, the rest of the text stands before the break.
        have hrest : ∀ rest, scan fuel (p.after ((c :: cs).take found.length))
            ((c :: cs).drop found.length) = .ok rest →
            scan whole (p.after ((c :: (cs ++ '\n' :: ds)).take found.length))
              ((c :: (cs ++ '\n' :: ds)).drop found.length) =
            (scan fuel' (p.after (c :: cs ++ ['\n'])) ds).map (rest ++ ·) := by
          intro rest hscan
          rw [← List.cons_append, List.take_append_of_le_length hle, List.drop_append_of_le_length hle,
            ih hscan (by omega) (by omega), ← Position.after_append, ← List.append_assoc,
            List.take_append_drop]
        rw [hsame]
        rw [hpiece] at h
        cases found with
        | gap n => exact hrest ls h
        | lexeme kind word n =>
          simp only [Piece.length] at h hrest ⊢
          cases hscan : scan fuel (p.after ((c :: cs).take n)) ((c :: cs).drop n) with
          | error e => simp [hscan] at h
          | ok rest =>
            simp only [hscan, Except.ok.injEq] at h
            subst h
            rw [hrest rest hscan]
            cases scan fuel' (p.after (c :: cs ++ ['\n'])) ds <;> rfl

/-- Number of lines of a text. -/
def lineCount (text : String) : Nat := text.toList.count '\n' + 1

/-- A text after another one and a line break is read as on its own, further down. -/
theorem ofText_append {text : String} (h : ofText text = .ok ls) (text' : String) :
    ofText (text ++ "\n" ++ text') = ((ofText text').map fun ls' =>
      ls ++ ls'.map (·.forward (text.toList.length + 1) (lineCount text))).mapError
        (Error.forward (lineCount text)) := by
  unfold ofText at h ⊢
  have htext : (text ++ "\n" ++ text').toList = text.toList ++ '\n' :: text'.toList := by simp
  have hplace : Position.start.after (text.toList ++ ['\n']) =
      Position.start.forward (text.toList.length + 1) (lineCount text) := by
    rw [Position.after_break]
    simp only [lineCount, Position.start, Position.forward, Position.mk.injEq, and_true]
    omega
  rw [htext, scan_append h (le_refl _) (by rw [List.length_append, List.length_cons]; omega)
    (le_refl _), hplace, scan_forward]
  cases scan text'.toList.length .start text'.toList <;> rfl

/-- Lexemes of two texts with a line break between them: those of the first, and those of the second
further down. -/
theorem ofText_append_break {text text' : String} {ls' : List Lexeme} (h : ofText text = .ok ls)
    (h' : ofText text' = .ok ls') : ofText (text ++ "\n" ++ text') =
      .ok (ls ++ ls'.map (·.forward (text.toList.length + 1) (lineCount text))) := by
  rw [ofText_append h, h']
  rfl

end Lexeme

end ActorDiagram
