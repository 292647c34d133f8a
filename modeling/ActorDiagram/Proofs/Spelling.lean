import Mathlib
import ActorDiagram.Proofs.Matching

/-!
# How identifiers are spelled

An identifier is a word of letters and digits, or it stands between two back quotes in the text. So
an identifier with any other character in it, and an empty one, can be traced to back quotes.
-/

namespace ActorDiagram

namespace Lexeme

/-- A letter, and after it letters and digits. -/
def isBareWord : List Char → Bool
  | [] => false
  | c :: cs => isIdentStart c && cs.all isIdentPart

/-- Some characters between back quotes on one line of a text. -/
structure QuotedIn (text word : List Char) : Prop where
  infix_text : '\x60' :: word ++ ['\x60'] <:+: text
  quote_notMem : '\x60' ∉ word
  break_notMem : '\n' ∉ word

lemma isIdentPart_of_isIdentStart {c : Char} (h : isIdentStart c = true) : isIdentPart c = true := by
  unfold isIdentStart at h
  unfold isIdentPart Text.isAlphanumeric
  simp only [Bool.or_eq_true] at h ⊢
  rcases h with (h | h) | h
  · exact .inl (.inl (.inl (.inl h)))
  · exact .inl (.inr h)
  · exact .inr h

lemma isIdentPart_of_isBareWord {word : List Char} (h : isBareWord word = true) {c : Char}
    (hc : c ∈ word) : isIdentPart c = true := by
  cases word with
  | nil => simp at hc
  | cons d ds =>
    simp only [isBareWord, Bool.and_eq_true, List.all_eq_true] at h
    rcases List.mem_cons.mp hc with rfl | hc
    · exact isIdentPart_of_isIdentStart h.1
    · exact h.2 c hc

lemma QuotedIn.of_suffix {text rest word : List Char} (h : QuotedIn rest word)
    (hrest : rest <:+ text) : QuotedIn text word :=
  ⟨h.infix_text.trans hrest.isInfix, h.quote_notMem, h.break_notMem⟩

lemma eq_of_backQuoted? {c : Char} {cs word : List Char} (h : backQuoted? c cs = some word) :
    ∃ rest, c :: cs = '\x60' :: word ++ ['\x60'] ++ rest := by
  unfold backQuoted? at h
  simp only [Option.ite_none_right_eq_some, Bool.and_eq_true, decide_eq_true_eq,
    beq_iff_eq, Option.some.injEq] at h
  obtain ⟨⟨rfl, hnext⟩, hword⟩ := h
  rw [hword] at hnext
  obtain ⟨rest, rfl⟩ : word <+: cs := hword ▸ List.takeWhile_prefix _
  rw [List.drop_left] at hnext
  obtain ⟨rest, rfl⟩ := List.head?_eq_some_iff.mp hnext
  exact ⟨rest, by simp⟩

lemma quotedIn_of_backQuoted? {c : Char} {cs word : List Char}
    (h : backQuoted? c cs = some word) : QuotedIn (c :: cs) word := by
  obtain ⟨rest, hrest⟩ := eq_of_backQuoted? h
  have hin : ∀ d ∈ word, d ≠ '\x60' ∧ d ≠ '\n' := by
    intro d hd
    unfold backQuoted? at h
    simp only [Option.ite_none_right_eq_some, Option.some.injEq] at h
    rw [← h.2] at hd
    simpa using List.mem_takeWhile_imp hd
  exact ⟨⟨[], rest, hrest.symm⟩, fun hd => (hin _ hd).1 rfl, fun hd => (hin _ hd).2 rfl⟩

lemma symbol_ne_identifier (c : Char) (cs word : List Char) (n : Nat) :
    symbol c cs ≠ .lexeme .identifier word n := by
  unfold symbol
  split
  · simp
  · cases cs with
    | nil => simp only; split <;> simp
    | cons d ds => simp only; split <;> [simp; (split <;> simp)]

/-- An identifier at the start of a text. -/
theorem piece_identifier {c : Char} {cs word : List Char} {n : Nat}
    (h : piece c cs = .ok (.lexeme .identifier word n)) :
    isBareWord word = true ∨ QuotedIn (c :: cs) word := by
  unfold piece at h
  split at h
  · simp at h
  split at h
  · simp at h
  split at h
  · cases hlength : Literal.commentLength (c :: cs) <;> simp [hlength] at h
  split at h
  case isTrue hstart =>
    left
    simp only [verbatim, Except.ok.injEq, Piece.lexeme.injEq, true_and] at h
    have hword : c :: cs.takeWhile isIdentPart = word := by
      rw [← h.1, Nat.add_comm, List.take_succ_cons,
        ← (List.prefix_iff_eq_take.mp (List.takeWhile_prefix isIdentPart))]
    rw [← hword, isBareWord, hstart, Bool.true_and, List.all_eq_true]
    exact fun d hd => List.mem_takeWhile_imp hd
  case isFalse =>
    right
    cases hquoted : backQuoted? c cs with
    | some word' =>
      simp only [hquoted, Except.ok.injEq, Piece.lexeme.injEq, true_and] at h
      exact h.1 ▸ quotedIn_of_backQuoted? hquoted
    | none =>
      simp only [hquoted, verbatim] at h
      split at h
      · simp at h
      split at h
      · cases hlength : Literal.stringLength (c :: cs) <;> simp [hlength] at h
      split at h
      · cases hlength : Literal.charLength (c :: cs) with
        | some length => simp [hlength] at h
        | none =>
          simp only [hlength, Except.ok.injEq] at h
          exact absurd h (symbol_ne_identifier c cs word n)
      · simp only [Except.ok.injEq] at h
        exact absurd h (symbol_ne_identifier c cs word n)

lemma exists_piece {fuel : Nat} {p : Position} {cs : List Char} {ts : List Lexeme}
    (h : scan fuel p cs = .ok ts) {t : Lexeme} (ht : t ∈ ts) :
    ∃ c ds n, c :: ds <:+ cs ∧ piece c ds = .ok (.lexeme t.kind t.text.toList n) := by
  induction fuel generalizing p cs ts with
  | zero =>
    cases cs <;> (cases h; simp at ht)
  | succ fuel ih =>
    cases cs with
    | nil =>
      cases h
      simp at ht
    | cons c cs =>
      have hrest : ∀ {n p ts}, scan fuel p ((c :: cs).drop n) = .ok ts → t ∈ ts →
          ∃ d ds k, d :: ds <:+ c :: cs ∧ piece d ds = .ok (.lexeme t.kind t.text.toList k) := by
        intro n p ts h ht
        obtain ⟨d, ds, k, hsuffix, hpiece⟩ := ih h ht
        exact ⟨d, ds, k, hsuffix.trans (List.drop_suffix _ _), hpiece⟩
      unfold scan at h
      cases hpiece : piece c cs with
      | error cause => simp [hpiece] at h
      | ok found =>
        cases found with
        | gap n =>
          simp only [hpiece] at h
          exact hrest h ht
        | lexeme kind word n =>
          simp only [hpiece] at h
          cases hscan : scan fuel (p.after ((c :: cs).take n)) ((c :: cs).drop n) with
          | error e => simp [hscan] at h
          | ok rest =>
            simp only [hscan, Except.ok.injEq] at h
            subst ts
            rcases List.mem_cons.mp ht with rfl | ht
            · exact ⟨c, cs, n, List.suffix_rfl, by rw [hpiece, String.toList_ofList]⟩
            · exact hrest hscan ht

/-- Every identifier of a text is a word or stands in back quotes there. -/
theorem scan_identifier {fuel : Nat} {p : Position} {cs : List Char} {ts : List Lexeme}
    (h : scan fuel p cs = .ok ts) {t : Lexeme} (ht : t ∈ ts) (hid : t.isIdentifier = true) :
    isBareWord t.text.toList = true ∨ QuotedIn cs t.text.toList := by
  obtain ⟨c, ds, n, hsuffix, hpiece⟩ := exists_piece h ht
  rw [isIdentifier_eq_true.mp hid] at hpiece
  exact (piece_identifier hpiece).imp_right (·.of_suffix hsuffix)

end Lexeme

namespace BracketState

lemma toLexeme_push (s : BracketState) (t : Lexeme) (role : BracketRole) :
    (s.push t role).tokens.toList.map Token.toLexeme = s.tokens.toList.map Token.toLexeme ++ [t] := by
  simp [push]

lemma toLexeme_step (s : BracketState) (t : Lexeme) :
    (s.step t).tokens.toList.map Token.toLexeme = s.tokens.toList.map Token.toLexeme ++ [t] := by
  unfold step
  split_ifs
  · exact toLexeme_push s t .unclosed
  · cases openingOf? t.text with
    | none => exact toLexeme_push s t .plain
    | some wanted =>
      simp only [readCloser]
      split <;> exact toLexeme_push _ t _
  · exact toLexeme_push s t .plain

/-- The tokens are the lexemes read. -/
theorem toLexeme_run (ts : List Lexeme) : (run ts).tokens.toList.map Token.toLexeme = ts := by
  induction ts using List.reverseRecOn with
  | nil => rfl
  | append_singleton ts t ih =>
    rw [run_concat, toLexeme_step, ih]

end BracketState

namespace Stream

/-- Text that is the text of an identifier of a stream. -/
def HasWord (s : Stream) (word : String) : Prop :=
  ∃ (i : Nat) (t : Token), s.get? i = some t ∧ t.isIdentifier = true ∧ t.text = word

lemma mem_of_get? {ts : List Lexeme} {i : Nat} {t : Token} (h : (ofLexemes ts).get? i = some t) :
    t.toLexeme ∈ ts := by
  have hmem : t ∈ (BracketState.run ts).tokens.toList :=
    Array.mem_toList_iff.mpr (Array.mem_of_getElem? h)
  rw [← BracketState.toLexeme_run ts]
  exact List.mem_map_of_mem hmem

/-- Every identifier of a text is a word or stands in back quotes there. -/
theorem HasWord.spelling {text : String} {s : Stream} (h : ofText text = .ok s) {word : String}
    (hword : s.HasWord word) :
    Lexeme.isBareWord word.toList = true ∨ Lexeme.QuotedIn text.toList word.toList := by
  unfold ofText at h
  cases hts : Lexeme.ofText text with
  | error e => simp [hts, Except.map] at h
  | ok ts =>
    rw [hts] at h
    cases h
    obtain ⟨i, t, ht, hid, rfl⟩ := hword
    exact Lexeme.scan_identifier hts (mem_of_get? ht) hid

/-- No identifier has a line break in it. -/
theorem HasWord.break_notMem {text : String} {s : Stream} (h : ofText text = .ok s) {word : String}
    (hword : s.HasWord word) : '\n' ∉ word.toList := by
  rcases hword.spelling h with hbare | hquoted
  · exact fun hmem => absurd (Lexeme.isIdentPart_of_isBareWord hbare hmem) (by decide)
  · exact hquoted.break_notMem

end Stream

end ActorDiagram
