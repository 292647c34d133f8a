import Mathlib
import ActorDiagram.Proofs.DecisionTree
import ActorDiagram.Proofs.LexemeText
import ActorDiagram.Proofs.PatternLabels

/-!
# Texts of ranges

The text of a range of tokens, without the layout of the source, is cut into the same tokens again. So it
tells ranges apart that do not have the same tokens. Labels of conditions do too, and so do labels of
patterns but for the quotes that they leave out.
-/

namespace ActorDiagram

/-! ### Words that can be read again -/

/-- Words that need no back quotes, and stay apart from a neighbour that is written without a space. -/
structure Rereadable (ws : List Word) : Prop where
  bare : ∀ x, .name x ∈ ws → Lexeme.isBareWord x.toList = true
  quote : ⟨.operator, "\x27"⟩ ∉ ws ∧ ⟨.operator, "\x60"⟩ ∉ ws
  colons : ¬ [.mark ":", .mark ":"] <:+: ws
  negation : ∀ x, [⟨.operator, "!"⟩, ⟨.operator, x⟩] <:+: ws → x.toList.head? ≠ some '='
  fraction : ∀ x y, [⟨.number, x⟩, .mark ".", ⟨.number, y⟩] <:+: ws →
    x.toList.all Literal.isWholePart = false

lemma Rereadable.tail {w : Word} {ws : List Word} (h : Rereadable (w :: ws)) : Rereadable ws where
  bare x hx := h.bare x (List.mem_cons_of_mem _ hx)
  quote := ⟨fun hmem => h.quote.1 (List.mem_cons_of_mem _ hmem),
    fun hmem => h.quote.2 (List.mem_cons_of_mem _ hmem)⟩
  colons hin := h.colons (List.infix_cons hin)
  negation x hin := h.negation x (List.infix_cons hin)
  fraction x y hin := h.fraction x y (List.infix_cons hin)

lemma rereadable_singleton {w : Word}
    (hbare : w.kind = .identifier → Lexeme.isBareWord w.text.toList = true)
    (hquote : w ≠ ⟨.operator, "\x27"⟩ ∧ w ≠ ⟨.operator, "\x60"⟩) : Rereadable [w] where
  bare x hx := by
    rw [List.mem_singleton] at hx
    rw [← hx] at hbare
    exact hbare rfl
  quote := by simpa only [List.mem_singleton, ne_eq, eq_comm] using hquote
  colons hin := by simpa using hin.length_le
  negation x hin := by simpa using hin.length_le
  fraction x y hin := by simpa using hin.length_le

namespace Stream

open Lexeme Literal

variable {t u : Token} {ts us : List Token}

/-- Kind and text of each token of a range. -/
def wordsIn (s : Stream) (start stop : Nat) : List Word := (s.slice start stop).map (·.word)

/-- Tokens whose texts are texts of lexemes. -/
def Spelled (ts : List Token) : Prop := ∀ t ∈ ts, Written t.kind t.text.toList

lemma spelled_slice {text : String} {s : Stream} (h : ofText text = .ok s) {start stop : Nat}
    (hts : Rereadable (s.wordsIn start stop)) : Spelled (s.slice start stop) := by
  intro t ht
  obtain ⟨c, cs, n, hpiece⟩ := exists_piece_of_mem_slice h ht
  have hmem : ⟨t.kind, t.text⟩ ∈ s.wordsIn start stop := List.mem_map_of_mem ht
  refine written_of_piece hpiece (fun hkind => ?_) fun hkind => ⟨fun htext => ?_, fun htext => ?_⟩
  · rw [hkind] at hmem
    exact hts.bare t.text hmem
  · rw [hkind, show t.text = "\x27" from String.toList_injective htext] at hmem
    exact hts.quote.1 hmem
  · rw [hkind, show t.text = "\x60" from String.toList_injective htext] at hmem
    exact hts.quote.2 hmem

/-! ### Neighbours -/

/-- Text that goes on with no word is separate, but for a point behind digits and a second colon. -/
lemma separate_of_ended {kind : TokenKind} {word rest : List Char} (hrest : Ended rest)
    (hpoint : kind = .number → word.all isWholePart = true → fractionLength rest = 0)
    (hcolon : kind = .mark → word = [':'] → rest.head? ≠ some ':') : Separate kind word rest := by
  cases kind with
  | identifier | string | character => exact hrest
  | number => exact ⟨hrest, hpoint rfl⟩
  | mark => exact hcolon rfl
  | operator =>
    unfold Separate
    split_ifs
    · intro hhead
      exact absurd (hrest '=' hhead) (by decide)
    · exact hrest

/-- No digit comes behind a point that no number follows. -/
lemma digitsLength_textAfter (h : Spelled ts) (hu : u.word = .mark ".")
    (hnumber : ∀ v ∈ ts.head?, v.kind ≠ .number) : digitsLength (textAfter u ts) = 0 := by
  cases ts with
  | nil => rfl
  | cons v ts =>
    obtain ⟨c, cs, hword, hdigit, -⟩ := (h v List.mem_cons_self).exists_head
    have hspaced : spaced u v = false := by
      obtain ⟨hkind, htext⟩ : u.kind = .mark ∧ u.text = "." := Word.mk.inj hu
      unfold spaced
      simp [hkind, htext]
    have hc : Text.isDigit c = false :=
      Bool.eq_false_iff.mpr fun hc => hnumber v rfl (hdigit hc)
    rw [textAfter, hspaced, if_neg Bool.false_ne_true, List.nil_append, hword, List.cons_append,
      digitsLength, List.takeWhile_cons_of_neg (by simp [hc])]
    rfl

lemma exists_boundary (h : u.text ∈ [".", ",", ")", "]", ":", ";", "(", "["]) :
    ∃ c ∈ boundaries, u.text = String.singleton c := by
  have hmap : [".", ",", ")", "]", ":", ";", "(", "["] = (boundaries.drop 2).map String.singleton := rfl
  rw [hmap] at h
  obtain ⟨c, hc, htext⟩ := List.mem_map.mp h
  exact ⟨c, List.mem_of_mem_drop hc, htext.symm⟩

lemma separate_mark (h : Rereadable ((t :: u :: ts).map (·.word))) (hw : Spelled ts)
    (hkind : u.kind = .mark) (htext : u.text ∈ [".", ",", ")", "]", ":", ";", "(", "["]) :
    Separate t.kind t.text.toList (u.text.toList ++ textAfter u ts) := by
  obtain ⟨c, hc, htext⟩ := exists_boundary htext
  have hu : u.word = .mark (String.singleton c) := by rw [word, hkind, htext, Word.mark]
  rw [htext, String.toList_singleton, List.singleton_append]
  refine separate_of_ended (ended_cons hc _) (fun hnumber hall => ?_) fun hmark hword hhead => ?_
  · by_cases hdot : c = '.'
    · subst hdot
      rw [fractionLength, if_pos (digitsLength_textAfter hw hu fun v hv hv' => ?_)]
      obtain ⟨vs, rfl⟩ := List.head?_eq_some_iff.mp hv
      have hno := h.fraction t.text v.text ⟨[], vs.map (·.word), by
        rw [List.map_cons, List.map_cons, List.map_cons, hu, word, word, hnumber, hv']
        rfl⟩
      rw [hall] at hno
      cases hno
    · simp [fractionLength, hdot]
  · rw [List.head?_cons, Option.some.injEq] at hhead
    subst hhead
    refine h.colons ⟨[], ts.map (·.word), ?_⟩
    rw [List.map_cons, List.map_cons, hu, word, hmark, show t.text = ":" from String.toList_injective hword]
    rfl

/-- What is written behind a token does not go on with it. -/
theorem separate_textAfter (h : Rereadable ((t :: ts).map (·.word))) (hw : Spelled (t :: ts)) :
    Separate t.kind t.text.toList (textAfter t ts) := by
  cases ts with
  | nil => exact separate_of_ended ended_nil (fun _ _ => rfl) (by simp [textAfter])
  | cons u us =>
    have hus : Spelled us := fun v hv => hw v (List.mem_cons_of_mem _ (List.mem_cons_of_mem _ hv))
    rw [textAfter]
    cases hspaced : spaced t u with
    | true => exact separate_of_ended (ended_cons (by decide) _) (fun _ _ => rfl) (by simp)
    | false =>
      rw [if_neg Bool.false_ne_true, List.nil_append]
      rcases not_spaced_cases hspaced with ⟨hkind, htext⟩ | ⟨hkind, htext⟩ | hop | ⟨hkind, htext, -⟩
      · exact separate_mark h hus hkind (List.mem_append_left ["(", "["] htext)
      · rw [hkind]
        intro hword
        rw [show t.text = ":" from String.toList_injective hword] at htext
        exact absurd htext (by decide)
      · obtain ⟨hkind, htext⟩ : t.kind = .operator ∧ t.text = "!" := isOperator_eq_true.mp hop
        obtain ⟨c, cs, hword, -, hequals⟩ := (hw u (by simp)).exists_head
        rw [hkind, htext]
        change (u.text.toList ++ textAfter u us).head? ≠ some '='
        rw [hword, List.cons_append, List.head?_cons, ne_eq, Option.some.injEq]
        rintro rfl
        have hnot := h.negation u.text ⟨[], us.map (·.word), by
          rw [List.map_cons, List.map_cons, word, word, hkind, htext, hequals rfl]
          rfl⟩
        rw [hword] at hnot
        exact hnot rfl
      · exact separate_mark h hus hkind (List.mem_append_right [".", ",", ")", "]", ":", ";"] htext)

/-! ### Reading a text again -/

lemma scan_space {fuel : Nat} (p : Position) (cs : List Char) :
    scan (fuel + 1) p (' ' :: cs) = scan fuel (p.after [' ']) cs := by
  have hpiece : piece ' ' cs = .ok (.gap 1) := if_pos (by decide)
  rw [scan, hpiece]
  rfl

lemma scan_of_readsAs {kind : TokenKind} {word rest : List Char} (h : ReadsAs kind word rest) {fuel : Nat}
    (hfuel : (word ++ rest).length ≤ fuel) (p : Position) : ∃ k, rest.length ≤ k ∧
      scan fuel p (word ++ rest) =
        (scan k (p.after word) rest).map (⟨kind, String.ofList word, p⟩ :: ·) := by
  obtain ⟨c, cs, rfl, hpiece⟩ := h
  obtain ⟨fuel, rfl⟩ : ∃ k, fuel = k + 1 := ⟨fuel - 1, by simp at hfuel; omega⟩
  refine ⟨fuel, by simp at hfuel; omega, ?_⟩
  rw [List.cons_append, scan, hpiece]
  simp only
  rw [← List.cons_append, List.take_left, List.drop_left]
  cases scan fuel (p.after (c :: cs)) rest <;> rfl

/-- The text of some tokens is cut into them. -/
theorem exists_scan {t : Token} {ts : List Token} (h : Rereadable ((t :: ts).map (·.word)))
    (hw : Spelled (t :: ts)) {fuel : Nat} (hfuel : (t.text.toList ++ textAfter t ts).length ≤ fuel)
    (p : Position) :
    ∃ ls, scan fuel p (t.text.toList ++ textAfter t ts) = .ok ls ∧
      wordsOf ls = (t :: ts).map (·.word) := by
  obtain ⟨k, hk, hscan⟩ := scan_of_readsAs ((hw t (by simp)).readsAs (separate_textAfter h hw)) hfuel p
  obtain ⟨ls, hls, hwords⟩ : ∃ ls, scan k (p.after t.text.toList) (textAfter t ts) = .ok ls ∧
      wordsOf ls = ts.map (·.word) := by
    cases ts with
    | nil => exact ⟨[], by cases k <;> rfl, rfl⟩
    | cons u us =>
      have hus : Spelled (u :: us) := fun v hv => hw v (List.mem_cons_of_mem _ hv)
      rw [textAfter] at hk ⊢
      cases hspaced : spaced t u with
      | false =>
        rw [hspaced, if_neg Bool.false_ne_true, List.nil_append] at hk
        rw [if_neg Bool.false_ne_true, List.nil_append]
        exact exists_scan h.tail hus hk _
      | true =>
        rw [hspaced, if_pos rfl, List.append_assoc, List.singleton_append, List.length_cons] at hk
        obtain ⟨k, rfl⟩ : ∃ j, k = j + 1 := ⟨k - 1, by omega⟩
        rw [if_pos rfl, List.append_assoc, List.singleton_append, scan_space]
        exact exists_scan h.tail hus (by omega) _
  rw [hls] at hscan
  refine ⟨_, hscan, ?_⟩
  rw [List.map_cons, ← hwords]
  simp [wordsOf, word]
termination_by ts.length

/-- The text of tokens is cut into them. -/
theorem ofText_textOf (h : Rereadable (ts.map (·.word))) (hw : Spelled ts) :
    ∃ r, ofText (textOf ts) = .ok r ∧ wordsOf r.lexemes = ts.map (·.word) := by
  cases ts with
  | nil => exact ⟨_, rfl, rfl⟩
  | cons t ts =>
    obtain ⟨ls, hls, hwords⟩ := exists_scan h hw (le_refl _) .start
    rw [← toList_textOf] at hls
    refine ⟨ofLexemes ls, map_eq_ok_iff.mpr ⟨ls, hls, rfl⟩, ?_⟩
    rw [lexemes_ofLexemes, hwords]

/-- Tokens are told by their text. -/
lemma words_of_textOf (h : Rereadable (ts.map (·.word))) (hw : Spelled ts)
    (h' : Rereadable (us.map (·.word))) (hw' : Spelled us) (htext : textOf ts = textOf us) :
    ts.map (·.word) = us.map (·.word) := by
  obtain ⟨r, hr, hwords⟩ := ofText_textOf h hw
  obtain ⟨r', hr', hwords'⟩ := ofText_textOf h' hw'
  rw [htext, hr'] at hr
  cases hr
  rw [← hwords, hwords']

end Stream

/-! ### Labels -/

lemma stripQuotes_cases (text : String) : stripQuotes text = text ∨
    ∃ q ∈ quoteMarks, text.toList = q :: ((stripQuotes text).toList ++ [q]) := by
  by_cases hquoted : ∃ q ∈ quoteMarks, ∃ body, text.toList = q :: (body ++ [q])
  · obtain ⟨q, hq, body, hbody⟩ := hquoted
    refine .inr ⟨q, hq, ?_⟩
    rw [stripQuotes_of_quoted hq hbody, String.toList_ofList, hbody]
  · exact .inl (stripQuotes_of_not_quoted fun q hq body hbody => hquoted ⟨q, hq, body, hbody⟩)

/-- Texts that are alike without quotes are alike, or one of them has them. -/
lemma eq_of_stripQuotes {a b : String} (h : stripQuotes a = stripQuotes b) : a = b ∨
    ∃ q ∈ quoteMarks, a.toList = q :: ((stripQuotes a).toList ++ [q]) ∨
      b.toList = q :: ((stripQuotes a).toList ++ [q]) := by
  rcases stripQuotes_cases a with ha | ⟨q, hq, ha⟩
  · rcases stripQuotes_cases b with hb | ⟨q, hq, hb⟩
    · exact .inl (ha.symm.trans (h.trans hb))
    · exact .inr ⟨q, hq, .inr (h ▸ hb)⟩
  · exact .inr ⟨q, hq, .inl ha⟩

namespace Pattern

open ActorDiagram.Stream

/-- The text of a range is cut into the tokens of the range again, so ranges with other tokens have other
texts. Patterns with other tokens have other labels, unless one of the labels has lost quotes. -/
theorem labels_keep_tokens {text text' : String} {s s' : Stream} (h : Stream.ofText text = .ok s)
    (h' : Stream.ofText text' = .ok s') :
    (∀ i j, Rereadable (s.wordsIn i j) →
      ∃ r, Stream.ofText (s.text i j) = .ok r ∧ wordsOf r.lexemes = s.wordsIn i j) ∧
    (∀ i j k l, Rereadable (s.wordsIn i j) → Rereadable (s'.wordsIn k l) →
      s.wordsIn i j ≠ s'.wordsIn k l → s.text i j ≠ s'.text k l) ∧
    ∀ i j e k l f label, guardStart s i j = .ok e → guardStart s' k l = .ok f →
      Rereadable (s.wordsIn i e) → Rereadable (s'.wordsIn k f) → s.wordsIn i e ≠ s'.wordsIn k f →
      Pattern.text s i j = .ok label → Pattern.text s' k l = .ok label →
      ∃ q ∈ quoteMarks, (s.text i e).toList = q :: (label.toList ++ [q]) ∨
        (s'.text k f).toList = q :: (label.toList ++ [q]) := by
  have happart : ∀ i j k l, Rereadable (s.wordsIn i j) → Rereadable (s'.wordsIn k l) →
      s.wordsIn i j ≠ s'.wordsIn k l → s.text i j ≠ s'.text k l := by
    intro i j k l hi hk hne htext
    exact hne (words_of_textOf hi (spelled_slice h hi) hk (spelled_slice h' hk) htext)
  refine ⟨fun i j hi => ofText_textOf hi (spelled_slice h hi), happart, ?_⟩
  intro i j e k l f label he hf hi hk hne hlabel hlabel'
  have hlabels : stripQuotes (s.text i e) = label ∧ stripQuotes (s'.text k f) = label := by
    rw [Pattern.text, he] at hlabel
    rw [Pattern.text, hf] at hlabel'
    exact ⟨Except.ok.inj hlabel, Except.ok.inj hlabel'⟩
  have hquotes := eq_of_stripQuotes (hlabels.1.trans hlabels.2.symm)
  rw [hlabels.1] at hquotes
  exact hquotes.resolve_left (happart i e k f hi hk hne)

/-- Arms for an event with an argument, for a string and for a name. -/
def threePatterns : String :=
  "s match \x7b case Go(n) => stay() case \"a\" => stay() case a => stay() \x7d"

set_option synthInstance.maxSize 2000 in
lemma ofText_threePatterns : ∃ s, Stream.ofText threePatterns = .ok s ∧
    s.wordsIn 4 8 = [.name "Go", .mark "(", .name "n", .mark ")"] ∧
    s.wordsIn 13 14 = [⟨.string, "\"a\""⟩] ∧ s.wordsIn 19 20 = [.name "a"] ∧
    guardStart s 13 14 = .ok 14 ∧ guardStart s 19 20 = .ok 20 ∧
    Pattern.text s 13 14 = .ok "a" ∧ Pattern.text s 19 20 = .ok "a" ∧
    Body.branches s .empty 0 s.size [] = .ok [⟨some "Go(n)", .stay none⟩, ⟨some "a", .stay none⟩,
      ⟨some "a", .stay none⟩] := by
  have hrun : (Stream.ofText threePatterns).map (fun s => (s.wordsIn 4 8, s.wordsIn 13 14,
      s.wordsIn 19 20, guardStart s 13 14, guardStart s 19 20, Pattern.text s 13 14,
      Pattern.text s 19 20, Body.branches s .empty 0 s.size [])) =
      .ok ([.name "Go", .mark "(", .name "n", .mark ")"], [⟨.string, "\"a\""⟩], [.name "a"], .ok 14,
        .ok 20, .ok "a", .ok "a", .ok [⟨some "Go(n)", .stay none⟩, ⟨some "a", .stay none⟩,
          ⟨some "a", .stay none⟩]) := by decide +kernel
  obtain ⟨s, hs, hrun⟩ := map_eq_ok_iff.mp hrun
  simp only [Prod.mk.injEq] at hrun
  exact ⟨s, hs, hrun⟩

lemma rereadable_goPattern : Rereadable [.name "Go", .mark "(", .name "n", .mark ")"] where
  bare x hx := by
    have hx : x = "Go" ∨ x = "n" := by simpa [Word.name, Word.mark] using hx
    rcases hx with rfl | rfl <;> decide
  quote := by decide
  colons := by decide
  negation x hx := by simp [List.infix_cons_iff, Word.name, Word.mark] at hx
  fraction x y hxy := by simp [List.infix_cons_iff, Word.name, Word.mark] at hxy

lemma rereadable_stringPattern : Rereadable [⟨.string, "\"a\""⟩] :=
  rereadable_singleton (fun h => by cases h) (by decide)

lemma rereadable_namePattern : Rereadable [.name "a"] :=
  rereadable_singleton (fun _ => by decide) (by decide)

theorem labels_threePatterns : ∃ s r, Stream.ofText threePatterns = .ok s ∧
    Stream.ofText (s.text 4 8) = .ok r ∧ wordsOf r.lexemes = s.wordsIn 4 8 ∧
    s.text 4 8 ≠ s.text 13 14 ∧ ∃ q ∈ quoteMarks, (s.text 13 14).toList = q :: ("a".toList ++ [q]) ∨
      (s.text 19 20).toList = q :: ("a".toList ++ [q]) := by
  obtain ⟨s, hs, hgo, hstring, hname, hguard, hguard', hlabel, hlabel', -⟩ := ofText_threePatterns
  obtain ⟨hagain, hapart, hlabels⟩ := labels_keep_tokens hs hs
  obtain ⟨r, hr, hwords⟩ := hagain 4 8 (hgo ▸ rereadable_goPattern)
  have hne : s.wordsIn 4 8 ≠ s.wordsIn 13 14 := by
    rw [hgo, hstring]
    decide
  have hne' : s.wordsIn 13 14 ≠ s.wordsIn 19 20 := by
    rw [hstring, hname]
    decide
  refine ⟨s, r, hs, hr, hwords, hapart 4 8 13 14 (hgo ▸ rereadable_goPattern)
    (hstring ▸ rereadable_stringPattern) hne, ?_⟩
  exact hlabels 13 14 14 19 20 20 "a" hguard hguard' (hstring ▸ rereadable_stringPattern)
    (hname ▸ rereadable_namePattern) hne' hlabel hlabel'

/-- A string and a name have one label, as the quotes of a pattern are left out. -/
theorem labels_alike : ∃ s, Stream.ofText threePatterns = .ok s ∧
    Rereadable (s.wordsIn 13 14) ∧ Rereadable (s.wordsIn 19 20) ∧
    s.wordsIn 13 14 ≠ s.wordsIn 19 20 ∧ Pattern.text s 13 14 = .ok "a" ∧
    Pattern.text s 19 20 = .ok "a" ∧
    Body.branches s .empty 0 s.size [] = .ok [⟨some "Go(n)", .stay none⟩, ⟨some "a", .stay none⟩,
      ⟨some "a", .stay none⟩] := by
  obtain ⟨s, hs, -, hstring, hname, -, -, hlabel, hlabel', hbranches⟩ := ofText_threePatterns
  refine ⟨s, hs, hstring ▸ rereadable_stringPattern, hname ▸ rereadable_namePattern, ?_, hlabel,
    hlabel', hbranches⟩
  rw [hstring, hname]
  decide

end Pattern

end ActorDiagram
