import Mathlib
import ActorDiagram.Proofs.Passage
import ActorDiagram.Proofs.Tiling
import ActorDiagram.Proofs.TypeClause
import ActorDiagram.Proofs.WindowBody
import ActorDiagram.Proofs.Yields

/-!
# Labels of patterns

The label of a pattern is the text of its tokens. A string literal alone loses its quotes, and so does
every text whose first token begins and whose last token ends with the same quote.
-/

namespace ActorDiagram

/-! ### String literals -/

namespace Literal

lemma stringFrom_eq_some {length n : Nat} {cs : List Char} (h : stringFrom length cs = some n) :
    ∃ body rest, InString body ∧ cs = body ++ '"' :: rest ∧ n = length + body.length + 1 := by
  fun_induction stringFrom length cs with
  | case1 length c cs ih =>
    obtain ⟨body, rest, hbody, rfl, rfl⟩ := ih h
    refine ⟨'\\' :: c :: body, rest, .escape c hbody, rfl, ?_⟩
    simp only [List.length_cons]
    omega
  | case2 length cs =>
    cases h
    exact ⟨[], cs, .nil, rfl, rfl⟩
  | case3 => cases h
  | case4 length c cs hescape hquote hbreak ih =>
    obtain ⟨body, rest, hbody, rfl, rfl⟩ := ih h
    refine ⟨c :: body, rest, .char ?_ hbody, rfl, ?_⟩
    · simp only [List.mem_cons, List.not_mem_nil, or_false, not_or]
      refine ⟨fun hc => ?_, hquote, hbreak⟩
      obtain ⟨d, ds, heq⟩ := List.exists_cons_of_ne_nil (show body ++ '"' :: rest ≠ [] by simp)
      exact hescape d ds hc heq
    · simp only [List.length_cons]
      omega
  | case5 => cases h

/-- What is between the quotes of a string literal holds no quote of its own, or the literal begins with
three. -/
lemma take_stringLength {cs : List Char} {n : Nat} (h : stringLength ('"' :: cs) = some n) :
    (∃ body, InString body ∧ ('"' :: cs).take n = '"' :: (body ++ ['"'])) ∨
      ['"', '"', '"'] <+: ('"' :: cs).take n := by
  unfold stringLength at h
  split at h
  · rename_i heq
    cases heq
    exact .inr (List.prefix_take_iff.mpr ⟨⟨_, rfl⟩, (Nat.le_add_right 3 3).trans (tripleFrom_bounds h).1⟩)
  · rename_i heq
    cases heq
    obtain ⟨body, rest, hbody, rfl, rfl⟩ := stringFrom_eq_some h
    refine .inl ⟨body, hbody, ?_⟩
    rw [show '"' :: (body ++ '"' :: rest) = '"' :: (body ++ ['"']) ++ rest by simp]
    exact List.take_left' (by simp; omega)
  · cases h

end Literal

/-- String literal that does not begin with three quotes. -/
def Lexeme.IsPlainString (t : Lexeme) : Prop :=
  t.kind = .string ∧ ¬ ['"', '"', '"'] <+: t.text.toList

instance (t : Lexeme) : Decidable t.IsPlainString := inferInstanceAs (Decidable (_ ∧ _))

namespace Lexeme

variable {c : Char} {cs word : List Char} {kind : TokenKind} {n : Nat}

lemma piece_string (h : piece c cs = .ok (.lexeme .string word n)) :
    (∃ body, InString body ∧ word = '"' :: (body ++ ['"'])) ∨ ['"', '"', '"'] <+: word := by
  rw [piece_eq] at h
  split_ifs at h
  · cases h
  · cases h
  · cases hlength : Literal.commentLength (c :: cs) <;> simp [hlength] at h
  · cases h
  · unfold literalOrSymbol at h
    have hsymbol : symbol c cs ≠ .lexeme .string word n := by
      intro heq
      rcases symbol_eq c cs with ⟨hs, -⟩ | ⟨d, ds, -, -, hs⟩ | ⟨hs, -⟩ <;> (rw [hs] at heq; cases heq)
    split at h
    · cases h
    · split_ifs at h with hdigit hstring hchar
      · cases h
      · split at h
        · rename_i hlength
          cases h
          rw [hstring] at hlength ⊢
          exact Literal.take_stringLength hlength
        · cases h
      · split at h
        · cases h
        · exact absurd (Except.ok.inj h) hsymbol
      · exact absurd (Except.ok.inj h) hsymbol

/-- Only a word in back quotes has no character. -/
lemma ne_nil_of_piece (h : piece c cs = .ok (.lexeme kind word n)) (hkind : kind ≠ .identifier) :
    word ≠ [] := by
  have hlength : 1 ≤ n := (piece_append h []).2.1
  have hspelled := spelledAs_of_piece h .start
  generalize hspelling : (c :: cs).take n = spelling at hspelled
  cases hspelled with
  | verbatim =>
    rintro rfl
    simp at hspelling
    omega
  | quoted hid => exact absurd hid hkind
  | arrow hop ha htext =>
    rintro rfl
    simp only [arrows, List.mem_cons, List.not_mem_nil, or_false] at ha
    rcases ha with rfl | rfl | rfl <;> simp at htext

end Lexeme

/-! ### Quotes around a text -/

/-- The characters that count as quotes. -/
def quoteMarks : List Char := ['"', '\x27']

lemma stripQuotes_of_quoted {text : String} {q : Char} (hq : q ∈ quoteMarks) {body : List Char}
    (h : text.toList = q :: (body ++ [q])) : stripQuotes text = String.ofList body := by
  have hq' : q = '"' ∨ q = '\x27' := by simpa [quoteMarks] using hq
  obtain ⟨d, ds, hds⟩ := List.exists_cons_of_ne_nil (show body ++ [q] ≠ [] by simp)
  have hlast : (d :: ds).getLast? = some q := by rw [← hds, List.getLast?_concat]
  unfold stripQuotes
  rw [h, hds]
  simp only
  rw [if_pos (by simp [hq', hlast]), ← hds, List.dropLast_concat]

lemma stripQuotes_of_not_quoted {text : String}
    (h : ∀ q ∈ quoteMarks, ∀ body, text.toList ≠ q :: (body ++ [q])) : stripQuotes text = text := by
  unfold stripQuotes
  split
  · rename_i c d cs htext
    refine if_neg fun hquoted => ?_
    simp only [Bool.and_eq_true, decide_eq_true_eq, Bool.or_eq_true, beq_iff_eq] at hquoted
    obtain ⟨body, hbody⟩ := List.getLast?_eq_some_iff.mp hquoted.2
    exact h c (by simpa [quoteMarks] using hquoted.1) body (by rw [htext, hbody])
  · rfl

namespace Stream

variable {t u : Token} {ts : List Token} {q : Char}

/-! ### First and last characters -/

/-- Tokens without a space between them: a mark that closes or separates, behind a mark that opens, behind a
negation, or brackets behind a name or other brackets. -/
lemma not_spaced_cases (h : spaced t u = false) :
    (u.kind = .mark ∧ u.text ∈ [".", ",", ")", "]", ":", ";"]) ∨
    (t.kind = .mark ∧ t.text ∈ [".", "(", "["]) ∨ t.isOperator "!" = true ∨
    (u.kind = .mark ∧ u.text ∈ ["(", "["] ∧ (t.kind = .identifier ∨ t.text ∈ [")", "]"])) := by
  unfold spaced at h
  split_ifs at h with hright hleft hop hparen
  · exact .inl (by simpa using hright)
  · exact .inr (.inl (by simpa using hleft))
  · exact .inr (.inr (.inl hop))
  · simp only [Bool.and_eq_true, beq_iff_eq, List.contains_iff_mem] at hparen
    simp only [Bool.not_eq_false', Bool.or_eq_true, beq_iff_eq, List.contains_iff_mem] at h
    exact .inr (.inr (.inr ⟨hparen.1, hparen.2, h⟩))

lemma text_of_spaced_left (ht : t.kind = .identifier) (h : spaced t u = false) :
    u.text ∈ [".", ",", ")", "]", ":", ";", "(", "["] := by
  rcases not_spaced_cases h with ⟨-, hu⟩ | ⟨hmark, -⟩ | hop | ⟨-, hu, -⟩
  · exact List.mem_append_left ["(", "["] hu
  · simp [ht] at hmark
  · simp [Lexeme.isOperator, ht] at hop
  · exact List.mem_append_right [".", ",", ")", "]", ":", ";"] hu

lemma text_of_spaced_right (hu : u.kind = .identifier) (h : spaced t u = false) :
    t.text ∈ [".", "(", "[", "!"] := by
  rcases not_spaced_cases h with ⟨hmark, -⟩ | ⟨-, ht⟩ | hop | ⟨hmark, -⟩
  · simp [hu] at hmark
  · exact List.mem_append_left ["!"] ht
  · simp [(Lexeme.isOperator_eq_true.mp hop).2]
  · simp [hu] at hmark

lemma textAfter_concat (t : Token) (ts : List Token) (u : Token) :
    textAfter t (ts ++ [u]) =
      textAfter t ts ++ ((if spaced (ts.getLastD t) u then [' '] else []) ++ u.text.toList) := by
  induction ts generalizing t with
  | nil => simp [textAfter]
  | cons v ts ih =>
    rw [List.cons_append, textAfter, textAfter, ih, List.getLastD_cons]
    simp only [List.append_assoc]

lemma toList_textOf (t : Token) (ts : List Token) :
    (textOf (t :: ts)).toList = t.text.toList ++ textAfter t ts := String.toList_ofList

lemma textOf_concat (ts : List Token) (t u : Token) :
    (textOf (ts ++ [t] ++ [u])).toList =
      (textOf (ts ++ [t])).toList ++ ((if spaced t u then [' '] else []) ++ u.text.toList) := by
  cases ts with
  | nil => simp [toList_textOf, textAfter]
  | cons v ts =>
    simp only [List.cons_append, toList_textOf]
    rw [textAfter_concat v (ts ++ [t]) u, List.append_assoc]
    simp

/-- Only words in back quotes say nothing. -/
def Speaks (ts : List Token) : Prop := ∀ t ∈ ts, t.text = "" → t.kind = .identifier

lemma quote_ne {c : Char} (hq : q ∈ quoteMarks) (hc : c ∉ quoteMarks) : c ≠ q := by
  rintro rfl
  exact hc hq

lemma head?_textOf (hts : Speaks ts) (hq : q ∈ quoteMarks) :
    (textOf ts).toList.head? = some q ↔ ∃ t, ts.head? = some t ∧ t.text.toList.head? = some q := by
  cases ts with
  | nil => simp [textOf]
  | cons t ts =>
    rw [toList_textOf, List.head?_append]
    simp only [List.head?_cons, Option.some.injEq, exists_eq_left']
    by_cases ht : t.text = ""
    · have hkind := hts t List.mem_cons_self ht
      simp only [ht, String.toList_empty, List.head?_nil, Option.none_or, reduceCtorEq, iff_false]
      cases ts with
      | nil => simp [textAfter]
      | cons u ts =>
        rw [textAfter]
        cases hspaced : spaced t u with
        | true => simpa using quote_ne hq (by decide)
        | false =>
          have hu := text_of_spaced_left hkind hspaced
          simp only [List.mem_cons, List.not_mem_nil, or_false] at hu
          rcases hu with hu | hu | hu | hu | hu | hu | hu | hu <;>
            simpa [hu] using quote_ne hq (by decide)
    · obtain ⟨c, cs, htext⟩ := List.exists_cons_of_ne_nil
        (show t.text.toList ≠ [] by simpa using ht)
      simp [htext]

lemma getLast?_textOf_concat (ts : List Token) {u : Token} (hu : u.text.toList ≠ []) :
    (textOf (ts ++ [u])).toList.getLast? = u.text.toList.getLast? := by
  cases ts using List.reverseRecOn with
  | nil => simp [toList_textOf, textAfter]
  | append_singleton ts t =>
    rw [textOf_concat, ← List.append_assoc, List.getLast?_append_of_ne_nil _ hu]

lemma getLast?_textOf (hts : Speaks ts) (hq : q ∈ quoteMarks) :
    (textOf ts).toList.getLast? = some q ↔
      ∃ t, ts.getLast? = some t ∧ t.text.toList.getLast? = some q := by
  cases ts using List.reverseRecOn with
  | nil => simp [textOf]
  | append_singleton ts u =>
    simp only [List.getLast?_concat, Option.some.injEq, exists_eq_left']
    by_cases hu : u.text = ""
    · have hkind := hts u (by simp) hu
      simp only [hu, String.toList_empty, List.getLast?_nil, reduceCtorEq, iff_false]
      cases ts using List.reverseRecOn with
      | nil => simp [toList_textOf, textAfter, hu]
      | append_singleton ts t =>
        rw [textOf_concat]
        cases hspaced : spaced t u with
        | true => simpa [hu] using quote_ne hq (by decide)
        | false =>
          -- The token before it has its last character.
          have ht := text_of_spaced_right hkind hspaced
          have hne : t.text.toList ≠ [] := by
            intro hnil
            simp [String.toList_eq_nil_iff.mp hnil] at ht
          simp only [hu, Bool.false_eq_true, if_false, String.toList_empty, List.append_nil]
          rw [getLast?_textOf_concat ts hne]
          simp only [List.mem_cons, List.not_mem_nil, or_false] at ht
          rcases ht with ht | ht | ht | ht <;> simpa [ht] using quote_ne hq (by decide)
    · rw [getLast?_textOf_concat ts (by simpa using hu)]

/-- The first token begins and the last ends with this quote, which is not all that they say. -/
structure QuotedEnds (q : Char) (ts : List Token) : Prop where
  first : ∃ t, ts.head? = some t ∧ t.text.toList.head? = some q
  last : ∃ t, ts.getLast? = some t ∧ t.text.toList.getLast? = some q
  ne : ∀ t, ts = [t] → t.text.toList ≠ [q]

theorem exists_quoted_iff (hts : Speaks ts) (hq : q ∈ quoteMarks) :
    (∃ body, (textOf ts).toList = q :: (body ++ [q])) ↔ QuotedEnds q ts := by
  constructor
  · rintro ⟨body, h⟩
    refine ⟨(head?_textOf hts hq).mp (by simp [h]), (getLast?_textOf hts hq).mp ?_, ?_⟩
    · rw [h, ← List.cons_append, List.getLast?_concat]
    · rintro t rfl htext
      simp [toList_textOf, textAfter, htext] at h
  · rintro ⟨hfirst, hlast, hne⟩
    obtain ⟨rest, hrest⟩ := List.head?_eq_some_iff.mp ((head?_textOf hts hq).mpr hfirst)
    have hend := (getLast?_textOf hts hq).mpr hlast
    rw [hrest] at hend ⊢
    cases rest using List.reverseRecOn with
    | append_singleton body c =>
      rw [← List.cons_append, List.getLast?_concat, Option.some.injEq] at hend
      exact ⟨body, by rw [hend]⟩
    | nil =>
      -- Two tokens with a quote each say more than one quote.
      exfalso
      obtain ⟨u, hu, hulast⟩ := hlast
      obtain ⟨init, rfl⟩ := List.getLast?_eq_some_iff.mp hu
      cases init using List.reverseRecOn with
      | nil => exact hne u rfl (by simpa [toList_textOf, textAfter] using hrest)
      | append_singleton ts t =>
        have hfront : (textOf (ts ++ [t])).toList.head? = some q := by
          refine (head?_textOf (fun v hv => hts v (List.mem_append_left _ hv)) hq).mpr ?_
          obtain ⟨v, hv, hvq⟩ := hfirst
          exact ⟨v, by rwa [List.head?_append_of_ne_nil _ (by simp)] at hv, hvq⟩
        rw [textOf_concat] at hrest
        have hlength := congrArg List.length hrest
        have hleft := List.length_pos_of_mem (List.mem_of_mem_head? hfront)
        have hright := List.length_pos_of_mem (List.mem_of_getLast? hulast)
        simp only [List.length_append, List.length_singleton] at hlength
        omega

/-! ### Tokens of a text -/

lemma exists_piece_of_mem_slice {text : String} {s : Stream} (h : ofText text = .ok s) {start stop : Nat}
    {t : Token} (ht : t ∈ s.slice start stop) :
    ∃ c cs n, Lexeme.piece c cs = .ok (.lexeme t.kind t.text.toList n) := by
  obtain ⟨ts, hts, rfl⟩ := map_eq_ok_iff.mp h
  rw [slice, Array.toList_extract, List.extract_eq_take_drop] at ht
  obtain ⟨k, hk⟩ := List.mem_iff_getElem?.mp (List.mem_of_mem_drop (List.mem_of_mem_take ht))
  rw [Array.getElem?_toList] at hk
  obtain ⟨c, cs, n, -, hpiece⟩ := Lexeme.exists_piece hts (mem_of_get? hk)
  exact ⟨c, cs, n, hpiece⟩

/-- What reading a text says of its tokens. -/
lemma speaks_slice {text : String} {s : Stream} (h : ofText text = .ok s) (start stop : Nat) :
    Speaks (s.slice start stop) ∧ ∀ t ∈ s.slice start stop, t.IsPlainString →
      ∃ body, InString body ∧ t.text.toList = '"' :: (body ++ ['"']) := by
  constructor
  · intro t ht hempty
    obtain ⟨c, cs, n, hpiece⟩ := exists_piece_of_mem_slice h ht
    by_contra hkind
    exact Lexeme.ne_nil_of_piece hpiece hkind (by rw [hempty]; rfl)
  · rintro t ht ⟨hkind, htriple⟩
    obtain ⟨c, cs, n, hpiece⟩ := exists_piece_of_mem_slice h ht
    rw [hkind] at hpiece
    exact (Lexeme.piece_string hpiece).resolve_right htriple

variable {s : Stream} {start stop : Nat}

/-- The first token of a range that fulfils `p` as deep as the range begins, or else the end of the
range. -/
structure FirstAt (s : Stream) (p : Token → Bool) (start stop e : Nat) : Prop where
  le_stop : e ≤ stop
  here : e < stop → start ≤ e ∧ ∃ t, s.get? e = some t ∧ (s.get? start).map (·.depth) = some t.depth ∧
    p t = true
  before : ∀ k t, start ≤ k → k < e → s.get? k = some t →
    (s.get? start).map (·.depth) = some t.depth → p t = false

lemma part_pairwise (s : Stream) (i n : Nat) : (s.part i n).Pairwise (·.1 < ·.1) := by
  refine List.Pairwise.filterMap _ ?_ List.pairwise_lt_range'
  intro k k' hk x hx y hy
  obtain ⟨t, -, rfl⟩ := Option.map_eq_some_iff.mp hx
  obtain ⟨u, -, rfl⟩ := Option.map_eq_some_iff.mp hy
  exact hk

lemma exists_firstAt (start : Nat) (hstop : stop ≤ s.size) (p : Token → Bool) :
    ∃ e, (do
      let depth ← s.depthAt start stop
      let tokens ← s.range start stop
      .ok (((tokens.find? fun x => x.2.depth == depth && p x.2).map (·.1)).getD stop)) =
        (.ok e : Except Error Nat) ∧ s.FirstAt p start stop e := by
  rw [range_eq_part hstop]
  by_cases hlt : start < stop
  · obtain ⟨first, hfirst⟩ : ∃ t, s.get? start = some t := ⟨_, Stream.get?_of_lt (hlt.trans_le hstop)⟩
    rw [depthAt, if_pos hlt, token_eq_ok_iff.mpr hfirst]
    refine ⟨_, rfl, ?_⟩
    cases hfind : (s.part start (stop - start)).find? fun x => x.2.depth == first.depth && p x.2 with
    | none =>
      rw [List.find?_eq_none] at hfind
      refine ⟨le_refl _, fun h => absurd h (lt_irrefl _), fun k t hk hkstop ht hdepth => ?_⟩
      have hmem := hfind (k, t) (mem_part.mpr ⟨hk, by simp at hkstop; omega, ht⟩)
      rw [hfirst, Option.map_some, Option.some.injEq] at hdepth
      simpa [hdepth] using hmem
    | some x =>
      obtain ⟨hx, pre, post, hsplit, hpre⟩ := List.find?_eq_some_iff_append.mp hfind
      obtain ⟨hstart, hxstop, hget⟩ := mem_part.mp (List.mem_of_find?_eq_some hfind)
      rw [Bool.and_eq_true, beq_iff_eq] at hx
      refine ⟨by simp; omega, fun _ => ⟨hstart, x.2, hget, by rw [hfirst, Option.map_some, hx.1], hx.2⟩,
        fun k t hk hkx ht hdepth => ?_⟩
      have hmem : (k, t) ∈ pre ++ x :: post := hsplit ▸ mem_part.mpr ⟨hk, by simp at hkx; omega, ht⟩
      have hsorted := hsplit ▸ s.part_pairwise start (stop - start)
      rw [hfirst, Option.map_some, Option.some.injEq] at hdepth
      rcases List.mem_append.mp hmem with hmem | hmem
      · simpa [hdepth] using hpre _ hmem
      · exfalso
        rcases List.mem_cons.mp hmem with heq | hmem
        · rw [← heq] at hkx
          exact lt_irrefl _ hkx
        · have := (List.pairwise_cons.mp (List.pairwise_append.mp hsorted).2.1).1 _ hmem
          simp at hkx
          omega
  · rw [depthAt, if_neg hlt, show stop - start = 0 by omega]
    exact ⟨stop, rfl, le_refl _, fun h => absurd h (lt_irrefl _), fun k t hk hkstop => by omega⟩

end Stream

namespace Pattern

open ActorDiagram.Stream

/-- What the label of these tokens is. -/
structure LabelOf (ts : List Token) (label : String) : Prop where
  /-- A plain string literal gives what is between its quotes. -/
  literal : ∀ t, ts = [t] → t.IsPlainString →
    InString label.toList ∧ t.text.toList = '"' :: (label.toList ++ ['"'])
  /-- Any other tokens give their text, but for quotes at both ends. -/
  other : (∀ t, ts = [t] → ¬ t.IsPlainString) →
    (label = textOf ts ↔ ∀ q ∈ quoteMarks, ¬ QuotedEnds q ts)
  /-- Tokens between quotes lose these. -/
  stripped : ∀ q ∈ quoteMarks, QuotedEnds q ts → (textOf ts).toList = q :: (label.toList ++ [q])

lemma labelOf_stripQuotes {ts : List Token} (hts : Speaks ts)
    (hstring : ∀ t ∈ ts, t.IsPlainString → ∃ body, InString body ∧ t.text.toList = '"' :: (body ++ ['"'])) :
    LabelOf ts (stripQuotes (textOf ts)) := by
  have hstripped : ∀ q ∈ quoteMarks, QuotedEnds q ts →
      (textOf ts).toList = q :: ((stripQuotes (textOf ts)).toList ++ [q]) := by
    intro q hq hends
    obtain ⟨body, hbody⟩ := (exists_quoted_iff hts hq).mpr hends
    rw [stripQuotes_of_quoted hq hbody, String.toList_ofList, hbody]
  refine ⟨?_, fun _ => ⟨fun hsame q hq hends => ?_, fun hends => ?_⟩, hstripped⟩
  · rintro t rfl ht
    obtain ⟨body, hin, htext⟩ := hstring t (List.mem_singleton_self t) ht
    have hsame : textOf [t] = t.text := String.toList_injective (by simp [toList_textOf, textAfter])
    rw [hsame, stripQuotes_of_quoted (by decide) htext, String.toList_ofList]
    exact ⟨hin, htext⟩
  · have hlength := congrArg List.length (hstripped q hq hends)
    rw [hsame, List.length_cons, List.length_append, List.length_singleton] at hlength
    omega
  · refine stripQuotes_of_not_quoted fun q hq body hbody => ?_
    exact hends q hq ((exists_quoted_iff hts hq).mp ⟨body, hbody⟩)

/-- The range that names the event of a pattern whose guard is at `e`. -/
inductive EventPart (s : Stream) (start e : Nat) : Nat → Nat → Prop
  | argument {close comma : Nat} (hevent : s.isWordAt start "Event" = true) (hlt : start + 1 < e)
    (hparen : s.hasMark (start + 1) "(" = true) (hclose : s.closer (start + 1) = .ok close)
    (hcomma : s.FirstAt (·.isMark ",") (start + 2) close comma) : EventPart s start e (start + 2) comma
  | whole (h : ¬ (s.isWordAt start "Event" = true ∧ start + 1 < e ∧ s.hasMark (start + 1) "(" = true)) :
    EventPart s start e start e

variable {text : String} {s : Stream} {start stop e : Nat}

lemma event_of_guard (h : guardStart s start stop = .ok e) :
    Pattern.event s start stop =
      if s.isWordAt start "Event" = true ∧ start + 1 < e ∧ s.hasMark (start + 1) "(" = true then (do
        let close ← s.closer (start + 1)
        let argumentEnd ← s.firstArgumentEnd (start + 2) close
        .ok (stripQuotes (s.text (start + 2) argumentEnd)))
      else .ok (stripQuotes (s.text start e)) := by
  rw [event_eq, h]
  simp only [Bool.and_eq_true, decide_eq_true_eq, and_assoc]
  rfl

/-- Labels of patterns in a text. Only where a bracket has no partner an event may have none. -/
theorem labelOf_ofText (h : Stream.ofText text = .ok s) (start : Nat) (hstop : stop ≤ s.size) :
    ∃ e, s.FirstAt (·.isWord "if") start stop e ∧
      (∃ label, Pattern.text s start stop = .ok label ∧ LabelOf (s.slice start e) label) ∧
      ((∃ i j label, EventPart s start e i j ∧ Pattern.event s start stop = .ok label ∧
          LabelOf (s.slice i j) label) ∨
        s.problems ≠ [] ∧ ∃ error, s.closer (start + 1) = .error error ∧
          Pattern.event s start stop = .error error) := by
  have hlabel : ∀ i j, LabelOf (s.slice i j) (stripQuotes (s.text i j)) :=
    fun i j => labelOf_stripQuotes (speaks_slice h i j).1 (speaks_slice h i j).2
  obtain ⟨ts, -, rfl⟩ := map_eq_ok_iff.mp h
  have hs := nested_ofLexemes ts
  obtain ⟨e, hguard, he⟩ := exists_firstAt start hstop (·.isWord "if")
  have hguard : guardStart (ofLexemes ts) start stop = .ok e := hguard
  refine ⟨e, he, ⟨_, by rw [Pattern.text, hguard]; rfl, hlabel start e⟩, ?_⟩
  rw [event_of_guard hguard]
  by_cases hevent : (ofLexemes ts).isWordAt start "Event" = true ∧ start + 1 < e ∧
      (ofLexemes ts).hasMark (start + 1) "(" = true
  · rw [if_pos hevent]
    cases hclose : (ofLexemes ts).closer (start + 1) with
    | ok close =>
      obtain ⟨comma, hargument, hcomma⟩ := exists_firstAt (start + 2)
        (le_of_lt (hs.lt_closer hclose).2) (·.isMark ",")
      have hargument : (ofLexemes ts).firstArgumentEnd (start + 2) close = .ok comma := hargument
      have hevent' := EventPart.argument hevent.1 hevent.2.1 hevent.2.2 hclose hcomma
      refine .inl ⟨start + 2, comma, _, hevent', ?_, hlabel (start + 2) comma⟩
      exact bind_eq_ok_iff.mpr ⟨close, rfl, bind_eq_ok_iff.mpr ⟨comma, hargument, rfl⟩⟩
    | error error =>
      refine .inr ⟨fun hbalance => ?_, error, rfl, rfl⟩
      obtain ⟨t, ht, hmark⟩ := hasMark_eq_true_iff.mp hevent.2.2
      obtain ⟨c, hc⟩ := hs.exists_closer hbalance ht (Lexeme.isOpening_of_isMark hmark (by decide))
      rw [hclose] at hc
      cases hc
  · rw [if_neg hevent]
    exact .inl ⟨start, e, _, .whole hevent, rfl, hlabel start e⟩

/-- An event whose name is a string literal, with a guard. -/
def literalEvent : String := "Event(\"Go\", data) if ready"

theorem labelOf_literalEvent : ∃ s e i j, Stream.ofText literalEvent = .ok s ∧ 7 ≤ s.size ∧
    s.FirstAt (·.isWord "if") 0 7 e ∧ EventPart s 0 e i j ∧ Pattern.event s 0 7 = .ok "Go" ∧
    LabelOf (s.slice i j) "Go" := by
  have hrun : (Stream.ofText literalEvent).map (fun s => (s.size, s.problems, Pattern.event s 0 7)) =
      .ok (8, [], .ok "Go") := by decide +kernel
  obtain ⟨s, h, hrun⟩ := map_eq_ok_iff.mp hrun
  simp only [Prod.mk.injEq] at hrun
  obtain ⟨hsize, hbalance, hevent⟩ := hrun
  have hstop : 7 ≤ s.size := by omega
  obtain ⟨e, he, -, ⟨i, j, label, hpart, hlabel, hof⟩ | ⟨hproblems, -⟩⟩ := labelOf_ofText h 0 hstop
  · rw [hevent, Except.ok.injEq] at hlabel
    subst hlabel
    exact ⟨s, e, i, j, h, hstop, he, hpart, hevent, hof⟩
  · exact absurd hbalance hproblems

/-- A pattern of two string literals. -/
def twoLiterals : String := "\"a\" | \"b\""

set_option synthInstance.maxSize 2000 in
/-- Quotes at the ends go, though they belong to two literals. -/
theorem text_twoLiterals : ∃ s, Stream.ofText twoLiterals = .ok s ∧ (s.slice 0 s.size).length = 3 ∧
    (∀ t ∈ s.slice 0 s.size, t.isWord "if" = false) ∧ s.isWordAt 0 "Event" = false ∧
    s.text 0 s.size = twoLiterals ∧ Pattern.text s 0 s.size = .ok "a\" | \"b" ∧
    Pattern.event s 0 s.size = .ok "a\" | \"b" ∧ twoLiterals ≠ "a\" | \"b" := by
  have hrun : (Stream.ofText twoLiterals).map (fun s => ((s.slice 0 s.size).length,
      (s.slice 0 s.size).all fun t => !t.isWord "if", s.isWordAt 0 "Event", s.text 0 s.size,
      Pattern.text s 0 s.size, Pattern.event s 0 s.size)) =
      .ok (3, true, false, twoLiterals, .ok "a\" | \"b", .ok "a\" | \"b") := by decide +kernel
  obtain ⟨s, h, hrun⟩ := map_eq_ok_iff.mp hrun
  simp only [Prod.mk.injEq, List.all_eq_true, Bool.not_eq_true'] at hrun
  obtain ⟨hlength, hguard, hword, htext, hlabel, hevent⟩ := hrun
  exact ⟨s, h, hlength, hguard, hword, htext, hlabel, hevent, by decide⟩

end Pattern

end ActorDiagram
