import Mathlib
import ActorDiagram.Proofs.LineBreak

/-!
# What stands between lexemes

Blanks and comments as a grammar, and the ends that comments and strings may lack. The readers of their
extents find the end that the grammar asks for, and find none only where there is none.
-/

namespace ActorDiagram

/-! ### Comments -/

/-- Rest of a block comment behind its start: characters, and comments inside it, up to its end. -/
inductive EndsComment : List Char → Prop
  | stop : EndsComment ['*', '/']
  | char {c : Char} {cs : List Char} (hopen : ¬ ['/', '*'] <+: c :: cs)
    (hclose : ¬ ['*', '/'] <+: c :: cs) (h : EndsComment cs) : EndsComment (c :: cs)
  | nested {inner cs : List Char} (hinner : EndsComment inner) (h : EndsComment cs) :
    EndsComment ('/' :: '*' :: (inner ++ cs))

lemma EndsComment.ne_nil {cs : List Char} (h : EndsComment cs) : cs ≠ [] := by
  cases h <;> simp

/-- A mark of two characters begins a text that is not empty whatever comes after it. -/
lemma prefix_cons_append {a b c : Char} {cs : List Char} (hcs : cs ≠ []) (rest : List Char) :
    [a, b] <+: c :: (cs ++ rest) ↔ [a, b] <+: c :: cs := by
  obtain ⟨d, cs, rfl⟩ := List.exists_cons_of_ne_nil hcs
  simp [List.cons_prefix_cons]

namespace Literal

/-- Where one of some open comments ends, the others are still open. -/
def afterComment (depth length : Nat) (cs : List Char) : Option Nat :=
  if depth = 0 then some length else commentFrom depth length cs

lemma commentFrom_char {c : Char} {cs : List Char} (hopen : ¬ ['/', '*'] <+: c :: cs)
    (hclose : ¬ ['*', '/'] <+: c :: cs) (depth length : Nat) :
    commentFrom depth length (c :: cs) = commentFrom depth (length + 1) cs := by
  rw [commentFrom]
  · rintro cs' rfl rfl
    exact hopen ⟨cs', rfl⟩
  · rintro cs' rfl rfl
    exact hclose ⟨cs', rfl⟩

/-- The end of a comment is found. -/
theorem commentFrom_of_endsComment {part : List Char} (h : EndsComment part) (depth length : Nat)
    (rest : List Char) : commentFrom (depth + 1) length (part ++ rest) =
      afterComment depth (length + part.length) rest := by
  induction h generalizing depth length rest with
  | stop =>
    unfold afterComment
    cases depth <;> simp [commentFrom]
  | @char c cs hopen hclose h ih =>
    rw [List.cons_append, commentFrom_char, ih, List.length_cons, Nat.add_assoc, Nat.add_comm 1]
    · rwa [prefix_cons_append h.ne_nil]
    · rwa [prefix_cons_append h.ne_nil]
  | @nested inner cs hinner h ihinner ih =>
    rw [List.cons_append, List.cons_append, List.append_assoc, commentFrom, ihinner]
    rw [afterComment, if_neg (Nat.succ_ne_zero depth), ih]
    congr 1
    simp only [List.length_cons, List.length_append]
    omega

/-- What is found is the end of every open comment, one after the other. -/
theorem exists_endsComment {depth length n : Nat} {cs : List Char}
    (h : commentFrom depth length cs = some n) (hdepth : depth ≠ 0) :
    ∃ (parts : List (List Char)) (rest : List Char), parts.length = depth ∧
      (∀ part ∈ parts, EndsComment part) ∧ cs = parts.flatten ++ rest ∧
      n = length + parts.flatten.length := by
  fun_induction commentFrom depth length cs with
  | case1 depth length cs ih =>
    obtain ⟨parts, rest, hlength, hparts, rfl, rfl⟩ := ih h (Nat.succ_ne_zero _)
    obtain ⟨inner, parts, rfl⟩ := List.exists_cons_of_length_eq_add_one hlength
    obtain ⟨part, parts, rfl⟩ := List.exists_cons_of_ne_nil (l := parts) (by
      rintro rfl
      simp at hlength
      omega)
    simp only [List.mem_cons, forall_eq_or_imp] at hparts
    refine ⟨('/' :: '*' :: (inner ++ part)) :: parts, rest, by simpa using hlength, ?_, by simp, ?_⟩
    · simp only [List.mem_cons, forall_eq_or_imp]
      exact ⟨.nested hparts.1 hparts.2.1, hparts.2.2⟩
    · simp only [List.flatten_cons, List.length_append, List.length_cons]
      omega
  | case2 length cs =>
    cases h
    exact ⟨[['*', '/']], cs, rfl, by simp [EndsComment.stop], rfl, rfl⟩
  | case3 depth length cs hone ih =>
    obtain ⟨parts, rest, hlength, hparts, rfl, rfl⟩ := ih h (by omega)
    refine ⟨['*', '/'] :: parts, rest, by rw [List.length_cons]; omega, ?_, by simp, ?_⟩
    · simp only [List.mem_cons, forall_eq_or_imp]
      exact ⟨.stop, hparts⟩
    · simp only [List.flatten_cons, List.length_append, List.length_cons, List.length_nil]
      omega
  | case4 depth length c cs hopen hclose ih =>
    obtain ⟨parts, rest, hlength, hparts, rfl, rfl⟩ := ih h hdepth
    obtain ⟨part, parts, rfl⟩ := List.exists_cons_of_ne_nil (l := parts) (by
      rintro rfl
      exact hdepth hlength.symm)
    simp only [List.mem_cons, forall_eq_or_imp] at hparts
    have hmark : ∀ {a b : Char}, [a, b] <+: c :: part → ∃ cs', c = a ∧
        (part :: parts).flatten ++ rest = b :: cs' := by
      rintro a b ⟨cs', hcs'⟩
      simp only [List.cons_append, List.nil_append, List.cons.injEq] at hcs'
      exact ⟨cs' ++ (parts.flatten ++ rest), hcs'.1.symm, by rw [← hcs'.2]; simp⟩
    refine ⟨(c :: part) :: parts, rest, hlength, ?_, by simp, ?_⟩
    · simp only [List.mem_cons, forall_eq_or_imp]
      refine ⟨.char (fun hmem => ?_) (fun hmem => ?_) hparts.1, hparts.2⟩
      · obtain ⟨cs', hc, hcs'⟩ := hmark hmem
        exact hopen cs' hc hcs'
      · obtain ⟨cs', hc, hcs'⟩ := hmark hmem
        exact hclose cs' hc hcs'
    · simp only [List.flatten_cons, List.length_append, List.length_cons]
      omega
  | case5 => cases h

lemma commentLength_eq_some {cs : List Char} {n : Nat}
    (h : commentLength ('/' :: '*' :: cs) = some n) : ∃ comment rest, EndsComment comment ∧
      cs = comment ++ rest ∧ n = comment.length + 2 := by
  change commentFrom 1 2 cs = some n at h
  obtain ⟨parts, rest, hlength, hparts, rfl, rfl⟩ := exists_endsComment h one_ne_zero
  obtain ⟨comment, rfl⟩ := List.length_eq_one_iff.mp hlength
  exact ⟨comment, rest, hparts comment (by simp), by simp, by simp; omega⟩

lemma commentLength_eq_none {cs : List Char} (h : commentLength ('/' :: '*' :: cs) = none)
    {comment rest : List Char} (hcomment : EndsComment comment) : cs ≠ comment ++ rest := by
  rintro rfl
  change commentFrom 1 2 (comment ++ rest) = none at h
  rw [commentFrom_of_endsComment hcomment 0] at h
  cases h

end Literal

/-! ### Strings -/

/-- Part of a string on one line: no quote and no line break in it but behind a backslash. -/
inductive InString : List Char → Prop
  | nil : InString []
  | char {c : Char} {cs : List Char} (hc : c ∉ ['\\', '"', '\n']) (h : InString cs) :
    InString (c :: cs)
  | escape (c : Char) {cs : List Char} (h : InString cs) : InString ('\\' :: c :: cs)

namespace Literal

lemma stringFrom_of_inString {body : List Char} (h : InString body) (length : Nat) (rest : List Char) :
    stringFrom length (body ++ '"' :: rest) = some (length + body.length + 1) := by
  induction h generalizing length with
  | nil => simp [stringFrom]
  | @char c cs hc h ih =>
    simp only [List.mem_cons, List.not_mem_nil, or_false, not_or] at hc
    rw [List.cons_append, stringFrom, ih, List.length_cons, Nat.add_assoc length, Nat.add_comm 1]
    · exact fun _ _ heq _ => hc.1 heq
    · exact hc.2.1
    · exact hc.2.2
  | @escape c cs h ih =>
    rw [List.cons_append, List.cons_append, stringFrom, ih]
    simp only [List.length_cons, Option.some.injEq]
    omega

lemma not_infix_of_tripleFrom {length : Nat} {cs : List Char} (h : tripleFrom length cs = none) :
    ¬ ['"', '"', '"'] <:+: cs := by
  fun_induction tripleFrom length cs with
  | case1 => cases h
  | case2 length c cs hquotes ih =>
    rw [List.infix_cons_iff, not_or]
    refine ⟨?_, ih h⟩
    rintro ⟨rest, hrest⟩
    simp only [List.cons_append, List.nil_append, List.cons.injEq] at hrest
    exact hquotes rest hrest.1.symm hrest.2.symm
  | case3 => simp

end Literal

/-! ### Gaps -/

/-- Blanks and comments in front of `after`. A comment behind two slashes goes up to a line break or the
end of the text. -/
inductive Gap (after : List Char) : List Char → Prop
  | nil : Gap after []
  | blank {c : Char} {cs : List Char} (hc : Text.isBlank c = true) (h : Gap after cs) :
    Gap after (c :: cs)
  | line {words cs : List Char} (hwords : '\n' ∉ words)
    (hend : ∀ c, (cs ++ after).head? = some c → c = '\n') (h : Gap after cs) :
    Gap after ('/' :: '/' :: (words ++ cs))
  | block {comment cs : List Char} (hcomment : EndsComment comment) (h : Gap after cs) :
    Gap after ('/' :: '*' :: (comment ++ cs))

/-- What begins here has no end: a comment, a string in triple quotes, or a string on one line. -/
inductive Unterminated : Cause → List Char → Prop
  | comment {cs : List Char} (h : ∀ comment rest, EndsComment comment → cs ≠ comment ++ rest) :
    Unterminated .unterminatedComment ('/' :: '*' :: cs)
  | triple {cs : List Char} (h : ¬ ['"', '"', '"'] <:+: cs) :
    Unterminated .unterminatedString ('"' :: '"' :: '"' :: cs)
  | string {cs : List Char} (h : ∀ body rest, InString body → cs ≠ body ++ '"' :: rest) :
    Unterminated .unterminatedString ('"' :: cs)

lemma Literal.unterminated_of_stringLength {cs : List Char} (h : stringLength ('"' :: cs) = none) :
    Unterminated .unterminatedString ('"' :: cs) := by
  unfold stringLength at h
  split at h
  · rename_i heq
    cases heq
    exact .triple (not_infix_of_tripleFrom h)
  · rename_i heq
    cases heq
    refine .string fun body rest hbody heq => ?_
    rw [heq, stringFrom_of_inString hbody] at h
    cases h
  · rename_i heq
    cases heq

namespace Lexeme

variable {c : Char} {cs : List Char} {n : Nat}

/-- A piece that is neither gap nor word: a word in back quotes, a literal as it stands, or a symbol. -/
lemma literalOrSymbol_eq_ok {p : Piece} (h : literalOrSymbol c cs = .ok p) :
    (∃ word, backQuoted? c cs = some word ∧ p = .lexeme .identifier word (word.length + 2)) ∨
    (∃ kind length, kind ≠ .identifier ∧ kind ≠ .operator ∧ p = verbatim kind length (c :: cs)) ∨
    p = symbol c cs := by
  unfold literalOrSymbol at h
  split at h
  · rename_i word hword
    cases h
    exact .inl ⟨word, hword, rfl⟩
  · split_ifs at h with hdigit hstring hchar
    · cases h
      exact .inr (.inl ⟨.number, _, by decide, by decide, rfl⟩)
    · split at h
      · cases h
        exact .inr (.inl ⟨.string, _, by decide, by decide, rfl⟩)
      · cases h
    · split at h
      · cases h
        exact .inr (.inl ⟨.character, _, by decide, by decide, rfl⟩)
      · cases h
        exact .inr (.inr rfl)
    · cases h
      exact .inr (.inr rfl)

lemma literalOrSymbol_eq_error {cause : Cause} (h : literalOrSymbol c cs = .error cause) :
    Unterminated cause (c :: cs) := by
  unfold literalOrSymbol at h
  split at h
  · cases h
  · split_ifs at h with hdigit hstring hchar
    · split at h
      · cases h
      · rename_i hlength
        cases h
        rw [hstring] at hlength ⊢
        exact Literal.unterminated_of_stringLength hlength
    · split at h <;> cases h

lemma symbol_eq (c : Char) (cs : List Char) :
    (symbol c cs = .lexeme .mark [c] 1 ∧ (isBracket c = true ∨ c ∈ ['.', ',', ';', ':'])) ∨
    (∃ d ds, cs = d :: ds ∧ isDoubleOp c d = true ∧ symbol c cs = .lexeme .operator [c, d] 2) ∨
    (symbol c cs = .lexeme .operator (singleOp c) 1 ∧ isBracket c = false ∧
      c ∉ ['.', ',', ';', ':']) := by
  unfold symbol
  by_cases hbracket : isBracket c = true
  · exact .inl ⟨if_pos hbracket, .inl hbracket⟩
  rw [if_neg hbracket]
  rw [Bool.not_eq_true] at hbracket
  cases cs with
  | nil =>
    simp only
    split_ifs with hc
    · exact .inl ⟨rfl, .inr (List.contains_iff_mem.mp hc)⟩
    · exact .inr (.inr ⟨rfl, hbracket, fun hmem => hc (List.contains_iff_mem.mpr hmem)⟩)
  | cons d ds =>
    simp only
    split_ifs with hdouble hc
    · exact .inr (.inl ⟨d, ds, rfl, hdouble, rfl⟩)
    · exact .inl ⟨rfl, .inr (List.contains_iff_mem.mp hc)⟩
    · exact .inr (.inr ⟨rfl, hbracket, fun hmem => hc (List.contains_iff_mem.mpr hmem)⟩)

lemma gap_line {cs gap after : List Char} (hrest : gap ++ after = cs.dropWhile (· != '\n'))
    (hgap : Gap after gap) : Gap after ('/' :: '/' :: (cs.takeWhile (· != '\n') ++ gap)) := by
  refine .line (fun hmem => by simpa using List.mem_takeWhile_imp hmem) (fun d hd => ?_) hgap
  have hnot := List.head?_dropWhile_not (· != '\n') cs
  rw [← hrest, hd] at hnot
  simpa using hnot

/-- A piece that is left out belongs to the gap it begins. -/
theorem gap_of_piece (h : piece c cs = .ok (.gap n)) {gap after : List Char}
    (hrest : gap ++ after = (c :: cs).drop n) (hgap : Gap after gap) :
    Gap after ((c :: cs).take n ++ gap) := by
  rw [piece_eq] at h
  split_ifs at h with hblank hline hblock hident
  · cases h
    exact .blank hblank hgap
  · cases h
    simp only [Bool.and_eq_true, decide_eq_true_eq, beq_iff_eq, List.head?_eq_some_iff] at hline
    obtain ⟨rfl, cs, rfl⟩ := hline
    have hlength : 1 + (('/' :: cs).takeWhile (· != '\n')).length =
        (cs.takeWhile (· != '\n')).length + 1 + 1 := by
      rw [List.takeWhile_cons_of_pos (by decide), List.length_cons, Nat.add_comm 1]
    have htake : cs.take (cs.takeWhile (· != '\n')).length = cs.takeWhile (· != '\n') :=
      (List.prefix_iff_eq_take.mp (List.takeWhile_prefix _)).symm
    have hdrop : cs.drop (cs.takeWhile (· != '\n')).length = cs.dropWhile (· != '\n') := by
      nth_rewrite 2 [← List.takeWhile_append_dropWhile (p := (· != '\n')) (l := cs)]
      exact List.drop_left
    rw [hlength, List.drop_succ_cons, List.drop_succ_cons, hdrop] at hrest
    rw [hlength, List.take_succ_cons, List.take_succ_cons, htake]
    exact gap_line hrest hgap
  · simp only [Bool.and_eq_true, decide_eq_true_eq, beq_iff_eq, List.head?_eq_some_iff] at hblock
    obtain ⟨rfl, cs, rfl⟩ := hblock
    cases hlength : Literal.commentLength ('/' :: '*' :: cs) with
    | none => simp [hlength] at h
    | some length =>
      rw [hlength] at h
      cases h
      obtain ⟨comment, rest, hcomment, rfl, rfl⟩ := Literal.commentLength_eq_some hlength
      rw [List.take_succ_cons, List.take_succ_cons, List.take_left]
      exact .block hcomment hgap
  · cases h
  · rcases literalOrSymbol_eq_ok h with ⟨_, -, heq⟩ | ⟨_, _, -, -, heq⟩ | heq
    · cases heq
    · cases heq
    · rcases symbol_eq c cs with ⟨h, -⟩ | ⟨_, _, -, -, h⟩ | ⟨h, -⟩ <;> simp [h] at heq

/-- Where no piece is found, something has no end. -/
theorem unterminated_of_piece {cause : Cause} (h : piece c cs = .error cause) :
    Unterminated cause (c :: cs) := by
  rw [piece_eq] at h
  split_ifs at h with hblank hline hblock hident
  · simp only [Bool.and_eq_true, decide_eq_true_eq, beq_iff_eq, List.head?_eq_some_iff] at hblock
    obtain ⟨rfl, cs, rfl⟩ := hblock
    cases hlength : Literal.commentLength ('/' :: '*' :: cs) with
    | some length => simp [hlength] at h
    | none =>
      rw [hlength] at h
      cases h
      exact .comment fun comment rest hcomment => Literal.commentLength_eq_none hlength hcomment
  · exact literalOrSymbol_eq_error h

end Lexeme

end ActorDiagram
