import Mathlib
import ActorDiagram.Proofs.BracketReport
import ActorDiagram.Proofs.Tiling

/-!
# Lines and columns

The line and the column of a token count the line breaks before its offset and the characters behind the
last of them, whatever lies before it. So do those that a failure reports, and those of a bracket without a
partner.
-/

namespace ActorDiagram

/-! ### Places -/

/-- The line that holds offset `o` starts at `k`. -/
structure LineStart (cs : List Char) (o k : Nat) : Prop where
  le : k ≤ o
  start : k = 0 ∨ cs[k - 1]? = some '\n'
  unbroken : ∀ j, k ≤ j → j < o → cs[j]? ≠ some '\n'

lemma LineStart.unique {cs : List Char} {o k l : Nat} (h : LineStart cs o k) (h' : LineStart cs o l) :
    k = l := by
  have hk := h.le
  have hl := h'.le
  rcases Nat.lt_trichotomy k l with hlt | heq | hgt
  · exact absurd (h'.start.resolve_left (by omega)) (h.unbroken (l - 1) (by omega) (by omega))
  · exact heq
  · exact absurd (h.start.resolve_left (by omega)) (h'.unbroken (k - 1) (by omega) (by omega))

/-- Offset `o` lies on this line at this column. -/
structure PlacedAt (cs : List Char) (o line column : Nat) : Prop where
  le_length : o ≤ cs.length
  line_eq : line = 1 + (cs.take o).count '\n'
  column_eq : ∃! k, LineStart cs o k ∧ column = o - k + 1

namespace Position

/-- The column behind a text is told by what follows its last line break. -/
lemma exists_last_line (text : List Char) : ∃ lines rest, text = lines ++ rest ∧ '\n' ∉ rest ∧
    (lines = [] ∨ lines.getLast? = some '\n') ∧ (behind text).column = rest.length + 1 := by
  induction text using List.reverseRecOn with
  | nil => exact ⟨[], [], rfl, by simp, .inl rfl, rfl⟩
  | append_singleton text c ih =>
    rw [behind_concat, next]
    by_cases hc : c = '\n'
    · subst hc
      exact ⟨text ++ ['\n'], [], by simp, by simp, .inr (by simp), rfl⟩
    · obtain ⟨lines, rest, rfl, hrest, hlines, hcolumn⟩ := ih
      refine ⟨lines, rest ++ [c], by simp, by simp [hrest, Ne.symm hc], hlines, ?_⟩
      rw [if_neg hc, hcolumn, List.length_append]
      rfl

/-- Offset, line and column behind a text are those of the character that follows it. -/
theorem placedAt_behind (text after : List Char) :
    PlacedAt (text ++ after) (behind text).offset (behind text).line (behind text).column := by
  obtain ⟨lines, rest, rfl, hrest, hlines, hcolumn⟩ := exists_last_line text
  have hoffset : (behind (lines ++ rest)).offset = lines.length + rest.length := List.length_append
  have hstart : LineStart (lines ++ rest ++ after) (lines.length + rest.length) lines.length := by
    refine ⟨by omega, ?_, fun j hj hlt hbreak => hrest ?_⟩
    · rcases hlines with rfl | hlast
      · exact .inl rfl
      · have hpos := List.length_pos_of_mem (List.mem_of_getLast? hlast)
        rw [List.append_assoc, List.getElem?_append_left (by omega), ← List.getLast?_eq_getElem?]
        exact .inr hlast
    · rw [List.append_assoc, List.getElem?_append_right hj, List.getElem?_append_left (by omega)] at hbreak
      exact List.mem_of_getElem? hbreak
  constructor
  · rw [hoffset, List.length_append, List.length_append]
    omega
  · rw [hoffset, ← List.length_append, List.take_left]
    exact Nat.add_comm _ _
  · rw [hoffset, hcolumn]
    refine ⟨lines.length, ⟨hstart, by omega⟩, ?_⟩
    rintro k ⟨hk, -⟩
    exact hk.unique hstart

end Position

/-! ### Tokens -/

/-- A lexeme of a tiling is written where it starts. -/
lemma Tiling.written {rest before cs : List Char} {ts : List Lexeme} (h : Tiling rest before cs ts)
    {t : Lexeme} (ht : t ∈ ts) : ∃ front spelling back, cs = front ++ (spelling ++ back) ∧
      t.start = .behind (before ++ front) ∧ spelling ≠ [] ∧ t.SpelledAs spelling := by
  induction h with
  | gap => simp at ht
  | @lexeme before gap spelling cs u ts hgap hlongest hstart hne hspelling h ih =>
    rcases List.mem_cons.mp ht with rfl | ht
    · exact ⟨gap, spelling, cs, rfl, hstart, hne, hspelling⟩
    · obtain ⟨front, spelling', back, rfl, hstart', hne', hspelling'⟩ := ih ht
      exact ⟨gap ++ spelling ++ front, spelling', back, by simp, by rw [hstart']; simp, hne', hspelling'⟩

/-- A bracket is written as it says. -/
lemma Lexeme.SpelledAs.eq_of_mark {t : Lexeme} {spelling : List Char} (h : t.SpelledAs spelling)
    (hkind : t.kind = .mark) : spelling = t.text.toList := by
  cases h with
  | verbatim => rfl
  | quoted h => rw [h] at hkind; cases hkind
  | arrow h => rw [h] at hkind; cases hkind

namespace Stream

/-- A bracket, with what is reported when it has no partner. -/
def Reported (cause : Cause) (bracket : Char) : Prop :=
  cause = .unclosedBracket ∧ bracket ∈ ['(', '[', '{'] ∨
    cause = .unexpectedBracket (String.singleton bracket) ∧ bracket ∈ [')', ']', '}']

/-- Where a token says it is there it is. -/
def WrittenAt (cs : List Char) (t : Token) : Prop :=
  PlacedAt cs t.start.offset t.line t.column ∧
    ∃ spelling, spelling ≠ [] ∧ spelling <+: cs.drop t.start.offset ∧ t.SpelledAs spelling

lemma writtenAt_of_tiling {cs : List Char} {s : Stream} (h : Tiling [] [] cs s.lexemes) {t : Token}
    (ht : t ∈ s.tokens) : WrittenAt cs t := by
  obtain ⟨front, spelling, back, rfl, hstart, hne, hspelling⟩ :=
    h.written (List.mem_map_of_mem (f := Token.toLexeme) (Array.mem_toList_iff.mpr ht))
  rw [List.nil_append] at hstart
  unfold WrittenAt Token.line Token.column
  rw [hstart]
  refine ⟨Position.placedAt_behind front _, spelling, hne, ?_, hspelling⟩
  rw [show (Position.behind front).offset = front.length from rfl, List.drop_left]
  exact List.prefix_append _ _

lemma WrittenAt.getElem?_of_mark {cs : List Char} {t : Token} (h : WrittenAt cs t) (hkind : t.kind = .mark)
    {c : Char} (htext : t.text = String.singleton c) : cs[t.start.offset]? = some c := by
  obtain ⟨-, spelling, -, ⟨back, hback⟩, hspelling⟩ := h
  rw [hspelling.eq_of_mark hkind, htext, String.toList_singleton, List.singleton_append] at hback
  rw [← List.head?_drop, ← hback, List.head?_cons]

lemma exists_char_of_bracket {t : Token} :
    (t.opens = true → t.kind = .mark ∧ ∃ c ∈ ['(', '[', '{'], t.text = String.singleton c) ∧
      (t.closes = true → t.kind = .mark ∧ ∃ c ∈ [')', ']', '}'], t.text = String.singleton c) := by
  simp only [Lexeme.opens, Lexeme.closes, bracketKinds, List.map_cons, List.map_nil, Bool.and_eq_true,
    beq_iff_eq, List.contains_iff_mem, List.mem_cons, List.not_mem_nil, or_false, exists_eq_or_imp,
    exists_eq_left]
  exact ⟨fun h => h, fun h => h⟩

/-- Lines and columns are exact: those of every token, those of every bracket that is reported, and those
of the comment or string without an end that a text fails with. -/
theorem ofText_placed (text : String) :
    (∃ s, ofText text = .ok s ∧
      (∀ i t, s.get? i = some t → WrittenAt text.toList t) ∧
      ∀ p ∈ s.problems, ∃ o bracket, text.toList[o]? = some bracket ∧ Reported p.cause bracket ∧
        PlacedAt text.toList o p.line p.column) ∨
    ∃ (cause : Cause) (o line column : Nat),
      ofText text = .error (.source cause (some line) (some column)) ∧
        PlacedAt text.toList o line column ∧ Unterminated cause (text.toList.drop o) := by
  rcases ofText_tiles text with ⟨s, hs, htiled, -⟩ | ⟨front, rest, ts, cause, htext, -, hend, hs⟩
  · obtain ⟨ts, -, rfl⟩ := map_eq_ok_iff.mp hs
    have hwritten : ∀ i t, (ofLexemes ts).get? i = some t → WrittenAt text.toList t :=
      fun i t ht => writtenAt_of_tiling htiled (Array.mem_of_getElem? ht)
    refine .inl ⟨ofLexemes ts, hs, hwritten, fun p hp => ?_⟩
    obtain ⟨i, t, ht, hplace, hbracket⟩ := bracket_of_mem_problems hp
    obtain ⟨hline, hcolumn⟩ := Prod.mk.inj hplace
    have hplaced := (hwritten i t ht).1
    rw [← hline, ← hcolumn] at hplaced
    rcases hbracket with ⟨hopens, hcause⟩ | ⟨hcloses, hcause⟩
    · obtain ⟨hkind, c, hc, htext⟩ := exists_char_of_bracket.1 hopens
      exact ⟨_, c, (hwritten i t ht).getElem?_of_mark hkind htext, .inl ⟨hcause, hc⟩, hplaced⟩
    · obtain ⟨hkind, c, hc, htext⟩ := exists_char_of_bracket.2 hcloses
      rw [htext] at hcause
      exact ⟨_, c, (hwritten i t ht).getElem?_of_mark hkind htext, .inr ⟨hcause, hc⟩, hplaced⟩
  · refine .inr ⟨cause, front.length, _, _, hs, ?_, ?_⟩
    · rw [htext]
      exact Position.placedAt_behind front rest
    · rwa [htext, List.drop_left]

end Stream

end ActorDiagram
