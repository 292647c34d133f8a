import Mathlib
import ActorDiagram.Proofs.Gaps
import ActorDiagram.Proofs.Places
import ActorDiagram.Proofs.Spelling

/-!
# Lexemes tile the text

A text is gaps and spellings of lexemes in turn, with nothing left out and nothing read twice. Where the
reading of a text stops, the text before that place is tiled, and what begins there has no end.
-/

namespace ActorDiagram

/-! ### Spellings -/

/-- Arrows of one character, and what they say. -/
def arrows : List (Char × String) := [('\u21d2', "=>"), ('\u2192', "->"), ('\u2190', "<-")]

/-- A lexeme is written as it says, but for a word in back quotes and an arrow of one character. -/
inductive Lexeme.SpelledAs (t : Lexeme) : List Char → Prop
  | verbatim (hquote : t.kind = .identifier → t.text.toList.head? ≠ some '\x60')
    (harrow : t.kind = .operator → ∀ a ∈ arrows, t.text.toList ≠ [a.1]) : SpelledAs t t.text.toList
  | quoted (h : t.kind = .identifier) : SpelledAs t ('\x60' :: (t.text.toList ++ ['\x60']))
  | arrow {a : Char × String} (h : t.kind = .operator) (ha : a ∈ arrows) (htext : t.text = a.2) :
    SpelledAs t [a.1]

/-- The text between `before` and `rest` as gaps and spellings of lexemes in turn. A lexeme starts behind
all text before it, and where it does, no gap goes on. -/
inductive Tiling (rest : List Char) : List Char → List Char → List Lexeme → Prop
  | gap {before gap : List Char} (hgap : Gap rest gap) : Tiling rest before gap []
  | lexeme {before gap spelling cs : List Char} {t : Lexeme} {ts : List Lexeme}
    (hgap : Gap (spelling ++ (cs ++ rest)) gap)
    (hlongest : ∀ more after, Gap after more → spelling ++ (cs ++ rest) = more ++ after → more = [])
    (hstart : t.start = .behind (before ++ gap)) (hne : spelling ≠ []) (hspelling : t.SpelledAs spelling)
    (h : Tiling rest (before ++ gap ++ spelling) cs ts) :
    Tiling rest before (gap ++ (spelling ++ cs)) (t :: ts)

namespace Lexeme

variable {c : Char} {cs word : List Char} {kind : TokenKind} {n : Nat}

lemma spelledAs_self (hquote : kind = .identifier → word.head? ≠ some '\x60')
    (harrow : kind = .operator → ∀ a ∈ arrows, word ≠ [a.1]) (p : Position) :
    SpelledAs ⟨kind, String.ofList word, p⟩ word := by
  have h : SpelledAs ⟨kind, String.ofList word, p⟩ (String.ofList word).toList := by
    refine .verbatim ?_ ?_
    · rwa [String.toList_ofList]
    · rwa [String.toList_ofList]
  rwa [String.toList_ofList] at h

lemma spelledAs_singleOp (c : Char) (p : Position) :
    SpelledAs ⟨.operator, String.ofList (singleOp c), p⟩ [c] := by
  by_cases hc : c ∈ arrows.map Prod.fst
  · obtain ⟨a, ha, rfl⟩ := List.mem_map.mp hc
    refine .arrow rfl ha ?_
    simp only [arrows, List.mem_cons, List.not_mem_nil, or_false] at ha
    rcases ha with rfl | rfl | rfl <;> rfl
  · have hsame : singleOp c = [c] := by
      simp only [arrows, List.map_cons, List.map_nil, List.mem_cons, List.not_mem_nil, or_false,
        not_or] at hc
      rw [singleOp, if_neg hc.1, if_neg hc.2.1, if_neg hc.2.2]
    rw [hsame]
    refine spelledAs_self (fun h => by cases h) (fun _ a ha heq => hc ?_) p
    rw [List.cons.injEq] at heq
    exact heq.1 ▸ List.mem_map_of_mem ha

/-- What a lexeme is written with. -/
theorem spelledAs_of_piece (h : piece c cs = .ok (.lexeme kind word n)) (p : Position) :
    SpelledAs ⟨kind, String.ofList word, p⟩ ((c :: cs).take n) := by
  rw [piece_eq] at h
  split_ifs at h with hblank hline hblock hident
  · cases h
  · cases h
  · cases hlength : Literal.commentLength (c :: cs) <;> simp [hlength] at h
  · cases h
    refine spelledAs_self (fun _ => ?_) (fun h => by cases h) p
    rw [Nat.add_comm, List.take_succ_cons, List.head?_cons]
    rintro ⟨rfl⟩
    exact absurd hident (by decide)
  · rcases literalOrSymbol_eq_ok h with ⟨word', hquoted, heq⟩ | ⟨kind', length, hid, hop, heq⟩ | heq
    · cases heq
      obtain ⟨rest, hrest⟩ := eq_of_backQuoted? hquoted
      have htake : (c :: cs).take (word.length + 2) = '\x60' :: (word ++ ['\x60']) := by
        rw [hrest]
        exact List.take_left' (by simp)
      have hspelled : SpelledAs ⟨.identifier, String.ofList word, p⟩
          ('\x60' :: ((String.ofList word).toList ++ ['\x60'])) := .quoted rfl
      rwa [htake, ← String.toList_ofList (l := word), String.ofList_toList]
    · cases heq
      exact spelledAs_self (fun h => absurd h hid) (fun h => absurd h hop) p
    · rcases symbol_eq c cs with ⟨hsymbol, -⟩ | ⟨d, ds, rfl, -, hsymbol⟩ | ⟨hsymbol, -⟩
      · rw [hsymbol] at heq
        cases heq
        exact spelledAs_self (fun h => by cases h) (fun h => by cases h) p
      · rw [hsymbol] at heq
        cases heq
        exact spelledAs_self (fun h => by cases h) (fun _ a _ heq => by simp at heq) p
      · rw [hsymbol] at heq
        cases heq
        exact spelledAs_singleOp c p

/-- Where a lexeme is found, nothing is left out. -/
theorem gap_eq_nil_of_piece (h : piece c cs = .ok (.lexeme kind word n)) {gap after : List Char}
    (hgap : Gap after gap) (hsplit : c :: cs = gap ++ after) : gap = [] := by
  rw [piece_eq] at h
  cases hgap with
  | nil => rfl
  | blank hc =>
    cases hsplit
    rw [if_pos hc] at h
    cases h
  | line hwords hend hgap =>
    cases hsplit
    rw [if_neg (by decide), if_pos (by simp)] at h
    cases h
  | @block comment cs hcomment hgap =>
    cases hsplit
    rw [if_neg (by decide), if_neg (by simp), if_pos (by simp)] at h
    split at h <;> cases h

end Lexeme

/-! ### Tilings -/

namespace Tiling

variable {before cs rest more : List Char} {ts : List Lexeme}

lemma widen (hmore : ∀ gap after, Gap after gap → gap ++ after = cs ++ rest → Gap after (more ++ gap))
    (h : Tiling rest (before ++ more) cs ts) : Tiling rest before (more ++ cs) ts := by
  cases h with
  | gap hgap => exact .gap (hmore _ _ hgap rfl)
  | lexeme hgap hlongest hstart hne hspelling h =>
    rw [← List.append_assoc]
    refine .lexeme (hmore _ _ hgap (by simp)) hlongest ?_ hne hspelling ?_
    · rw [hstart, List.append_assoc]
    · rwa [List.append_assoc before] at h

/-- Lexemes of a tiling start one after the other, behind the text before. -/
theorem starts (h : Tiling rest before cs ts) :
    (∀ t ∈ ts, ∃ u, t.start = .behind (before ++ u)) ∧ ts.Pairwise fun t u => t.start.Before u.start := by
  induction h with
  | gap => simp
  | @lexeme before gap spelling cs t ts hgap hlongest hstart hne hspelling h ih =>
    obtain ⟨hbehind, horder⟩ := ih
    refine ⟨?_, List.pairwise_cons.mpr ⟨fun u hu => ?_, horder⟩⟩
    · intro u hu
      rcases List.mem_cons.mp hu with rfl | hu
      · exact ⟨gap, hstart⟩
      · obtain ⟨v, hv⟩ := hbehind u hu
        exact ⟨gap ++ spelling ++ v, by rw [hv]; simp⟩
    · obtain ⟨v, hv⟩ := hbehind u hu
      rw [hstart, hv, List.append_assoc]
      exact Position.behind_before _ (by simp [hne])

end Tiling

/-- A text is tiled by its lexemes up to its end, or up to something that has no end. -/
theorem Lexeme.scan_tiles {fuel : Nat} {cs : List Char} (hfuel : cs.length ≤ fuel) (before : List Char) :
    ∃ front rest ts, cs = front ++ rest ∧ Tiling rest before front ts ∧
      (rest = [] ∧ scan fuel (.behind before) cs = .ok ts ∨
        ∃ cause, Unterminated cause rest ∧ scan fuel (.behind before) cs =
          .error (.source cause (some (Position.behind (before ++ front)).line)
            (some (Position.behind (before ++ front)).column))) := by
  induction fuel generalizing cs before with
  | zero =>
    obtain rfl : cs = [] := List.eq_nil_of_length_eq_zero (by omega)
    exact ⟨[], [], [], rfl, .gap .nil, .inl ⟨rfl, rfl⟩⟩
  | succ fuel ih =>
    cases cs with
    | nil => exact ⟨[], [], [], rfl, .gap .nil, .inl ⟨rfl, rfl⟩⟩
    | cons c cs =>
      rw [scan]
      cases hpiece : piece c cs with
      | error cause =>
        refine ⟨[], c :: cs, [], rfl, .gap .nil, .inr ⟨cause, unterminated_of_piece hpiece, ?_⟩⟩
        rw [List.append_nil]
      | ok found =>
        -- The piece goes over to the text before, so that the rest starts behind it.
        obtain ⟨-, hlength, -⟩ := piece_append hpiece []
        have hsplit := List.take_append_drop found.length (c :: cs)
        have hshort : ((c :: cs).drop found.length).length ≤ fuel := by
          rw [List.length_drop]
          rw [List.length_cons] at hfuel ⊢
          omega
        obtain ⟨front, rest, ts, hdrop, htiled, hend⟩ :=
          ih hshort (before ++ (c :: cs).take found.length)
        rw [Position.behind_append before] at hend
        rw [hdrop, ← List.append_assoc] at hsplit
        rw [List.append_assoc before] at hend
        cases found with
        | gap n =>
          refine ⟨_, rest, ts, hsplit.symm, htiled.widen fun gap after hgap heq => ?_, hend⟩
          exact gap_of_piece hpiece (heq.trans hdrop.symm) hgap
        | lexeme kind word n =>
          simp only [Piece.length] at hsplit hlength hend
          refine ⟨_, rest, ⟨kind, String.ofList word, .behind before⟩ :: ts, hsplit.symm, ?_, ?_⟩
          · change Tiling rest before ([] ++ ((c :: cs).take n ++ front)) _
            refine .lexeme .nil (fun more after hgap heq => ?_) (by rw [List.append_nil]) ?_
              (spelledAs_of_piece hpiece _) (by rwa [List.append_nil])
            · rw [← List.append_assoc, hsplit] at heq
              exact gap_eq_nil_of_piece hpiece hgap heq
            · simp only [ne_eq, List.take_eq_nil_iff, reduceCtorEq, or_false]
              exact Nat.ne_of_gt hlength
          · rcases hend with ⟨hrest, hscan⟩ | ⟨cause, hend, hscan⟩
            · exact .inl ⟨hrest, by simp only [hscan]⟩
            · exact .inr ⟨cause, hend, by simp only [hscan]⟩

/-- Lexemes of a text start one after the other. -/
theorem Lexeme.starts_of_ofText {text : String} {ts : List Lexeme} (h : ofText text = .ok ts) :
    ts.Pairwise fun t u => t.start.Before u.start := by
  obtain ⟨front, rest, us, -, htiled, hend⟩ := scan_tiles (le_refl text.toList.length) []
  have hstart : Position.behind [] = .start := rfl
  rw [ofText, ← hstart] at h
  rcases hend with ⟨-, hscan⟩ | ⟨cause, -, hscan⟩
  · rw [hscan] at h
    cases h
    exact htiled.starts.2
  · rw [hscan] at h
    cases h

namespace Stream

/-- Tokens without their depths. -/
def lexemes (s : Stream) : List Lexeme := s.tokens.toList.map Token.toLexeme

lemma lexemes_ofLexemes (ts : List Lexeme) : (ofLexemes ts).lexemes = ts :=
  BracketState.toLexeme_run ts

/-- The tokens of a text tile it, at growing offsets. A text without a stream is tiled up to the place
that the failure names, and what begins there is a comment or a string without an end. -/
theorem ofText_tiles (text : String) :
    (∃ s, ofText text = .ok s ∧ Tiling [] [] text.toList s.lexemes ∧
      s.lexemes.Pairwise fun t u => t.start.offset < u.start.offset) ∨
    ∃ front rest ts cause, text.toList = front ++ rest ∧ Tiling rest [] front ts ∧
      Unterminated cause rest ∧ ofText text = .error (.source cause
        (some (Position.behind front).line) (some (Position.behind front).column)) := by
  obtain ⟨front, rest, ts, htext, htiled, hend⟩ := Lexeme.scan_tiles (le_refl text.toList.length) []
  have hstart : Position.behind [] = .start := rfl
  rw [hstart, List.nil_append] at hend
  unfold ofText Lexeme.ofText
  rcases hend with ⟨rfl, hscan⟩ | ⟨cause, hend, hscan⟩
  · left
    rw [List.append_nil] at htext
    rw [hscan, htext]
    refine ⟨_, rfl, ?_⟩
    rw [lexemes_ofLexemes]
    exact ⟨htiled, htiled.starts.2.imp And.left⟩
  · right
    rw [hscan]
    exact ⟨front, rest, ts, cause, htext, htiled, hend, rfl⟩

end Stream

end ActorDiagram
