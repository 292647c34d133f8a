import Mathlib
import ActorDiagram.Proofs.Matching

/-!
# Balanced brackets

Texts of brackets that balance, as a grammar over the three kinds of brackets. Words balance where the
brackets among them do.
-/

namespace ActorDiagram

/-- Kinds of brackets: what opens and what closes. -/
def bracketKinds : List (String × String) := [("(", ")"), ("[", "]"), (leftBrace, rightBrace)]

/-- Every bracket has its partner, with balanced brackets between the two. -/
inductive BalancedBrackets : List String → Prop
  | nil : BalancedBrackets []
  | pair {o c : String} {inner after : List String} (h : (o, c) ∈ bracketKinds)
    (hinner : BalancedBrackets inner) (hafter : BalancedBrackets after) :
    BalancedBrackets (o :: (inner ++ c :: after))

namespace Lexeme

def opens (t : Lexeme) : Bool := t.kind == .mark && (bracketKinds.map Prod.fst).contains t.text

def closes (t : Lexeme) : Bool := t.kind == .mark && (bracketKinds.map Prod.snd).contains t.text

end Lexeme

/-- Texts of the brackets among some lexemes. -/
def bracketsOf (ts : List Lexeme) : List String := (ts.filter fun t => t.opens || t.closes).map (·.text)

lemma openingOf?_eq_some_iff {o c : String} : openingOf? c = some o ↔ (o, c) ∈ bracketKinds := by
  unfold openingOf?
  split_ifs with h h' h'' <;> simp_all [bracketKinds, leftBrace, rightBrace, eq_comm]

namespace Lexeme

lemma isOpening_word (t : Lexeme) : t.word.isOpening = t.opens := by
  rw [Bool.eq_iff_iff]
  simp [Word.isOpening, opens, word, closingOf?_isSome_iff, bracketKinds]

lemma closes?_word_iff {t : Lexeme} {o : String} :
    t.word.closes? = some o ↔ t.kind = .mark ∧ (o, t.text) ∈ bracketKinds := by
  unfold Word.closes?
  split_ifs with h
  · rw [openingOf?_eq_some_iff]
    exact (and_iff_right h).symm
  · exact iff_of_false (by simp) fun hmark => h hmark.1

lemma isSome_closes?_word (t : Lexeme) : t.word.closes?.isSome = t.closes := by
  rw [Bool.eq_iff_iff]
  unfold Word.closes?
  split_ifs with h
  · simp_all [closes, word, openingOf?_isSome_iff, bracketKinds]
  · simp_all [closes, word]

lemma isPlain_word (t : Lexeme) : t.word.isPlain = !(t.opens || t.closes) := by
  rw [Word.isPlain, isOpening_word, ← Option.not_isSome, isSome_closes?_word, Bool.not_or]

end Lexeme

variable {ts us : List Lexeme} {t : Lexeme}

lemma bracketsOf_append : bracketsOf (ts ++ us) = bracketsOf ts ++ bracketsOf us := by
  unfold bracketsOf
  rw [List.filter_append, List.map_append]

lemma bracketsOf_cons_of_isPlain (h : t.word.isPlain = true) : bracketsOf (t :: ts) = bracketsOf ts := by
  rw [Lexeme.isPlain_word, Bool.not_eq_true'] at h
  unfold bracketsOf
  rw [List.filter_cons_of_neg (by simp [h])]

lemma bracketsOf_cons_of_not_isPlain (h : t.word.isPlain = false) :
    bracketsOf (t :: ts) = t.text :: bracketsOf ts := by
  rw [Lexeme.isPlain_word, Bool.not_eq_false'] at h
  unfold bracketsOf
  rw [List.filter_cons_of_pos (by exact h), List.map_cons]

/-- Brackets of balanced words balance. -/
theorem balancedBrackets_of_balanced (ts : List Lexeme) (h : Balanced (wordsOf ts)) :
    BalancedBrackets (bracketsOf ts) := by
  match ts with
  | [] => exact .nil
  | t :: ts =>
    rw [Balanced, wordsOf, List.map_cons, openAfter_cons] at h
    obtain ⟨opened, hnest, hopened⟩ := Option.bind_eq_some_iff.mp h
    by_cases hplain : t.word.isPlain = true
    · rw [Word.nest_of_isPlain hplain] at hnest
      cases hnest
      rw [bracketsOf_cons_of_isPlain hplain]
      exact balancedBrackets_of_balanced ts hopened
    · by_cases ho : t.word.isOpening = true
      · rw [Word.nest_of_isOpening ho] at hnest
        cases hnest
        have hopened : openAfter ([] ++ t.word.text :: []) (wordsOf ts) = some [] := hopened
        obtain ⟨_, _, _, hsplit, hinner, hc, hafter⟩ := exists_closing_of_openAfter hopened (le_refl _)
        obtain ⟨us, _, rfl, rfl, hcons⟩ := List.map_eq_append_iff.mp hsplit
        obtain ⟨u, vs, rfl, rfl, rfl⟩ := List.map_eq_cons_iff.mp hcons
        have hu : u.word.isPlain = false := by simp [Word.isPlain, hc]
        rw [bracketsOf_cons_of_not_isPlain (by simpa using hplain), bracketsOf_append,
          bracketsOf_cons_of_not_isPlain hu]
        exact .pair (Lexeme.closes?_word_iff.mp hc).2 (balancedBrackets_of_balanced us hinner)
          (balancedBrackets_of_balanced vs hafter)
      · obtain ⟨b, hc⟩ : ∃ b, t.word.closes? = some b := by
          simpa [Word.isPlain, ho, Option.ne_none_iff_exists'] using hplain
        rw [Word.nest_of_head?_ne hc (by simp)] at hnest
        cases hnest
termination_by ts.length

lemma exists_of_bracketsOf_eq_append {ts : List Lexeme} {front back : List String} {b : String}
    (h : bracketsOf ts = front ++ b :: back) :
    ∃ us t vs, ts = us ++ t :: vs ∧ bracketsOf us = front ∧ bracketsOf vs = back ∧ t.text = b ∧
      (t.opens || t.closes) = true := by
  obtain ⟨us, _, hfilter, hfront, hcons⟩ := List.map_eq_append_iff.mp h
  obtain ⟨t, vs, rfl, rfl, hback⟩ := List.map_eq_cons_iff.mp hcons
  obtain ⟨us', _, rfl, hus, hrest⟩ := List.filter_eq_append_iff.mp hfilter
  obtain ⟨ws, vs', rfl, hws, ht, hvs⟩ := List.filter_eq_cons_iff.mp hrest
  refine ⟨us' ++ ws, t, vs', by simp, ?_, ?_, rfl, ht⟩
  · rw [bracketsOf_append, ← hfront, ← hus]
    have hnone : bracketsOf ws = [] := by
      unfold bracketsOf
      rw [List.filter_eq_nil_iff.mpr hws, List.map_nil]
    rw [hnone, List.append_nil]
    rfl
  · rw [← hback, ← hvs]
    rfl

lemma balanced_of_bracketsOf_eq_nil {ts : List Lexeme} (h : bracketsOf ts = []) :
    Balanced (wordsOf ts) := by
  induction ts with
  | nil => exact balanced_nil
  | cons t ts ih =>
    by_cases hplain : t.word.isPlain = true
    · rw [bracketsOf_cons_of_isPlain hplain] at h
      exact .cons hplain (ih h)
    · rw [bracketsOf_cons_of_not_isPlain (by simpa using hplain)] at h
      cases h

/-- Words balance where their brackets do. -/
theorem balanced_of_balancedBrackets {bs : List String} (h : BalancedBrackets bs) {ts : List Lexeme}
    (hts : bracketsOf ts = bs) : Balanced (wordsOf ts) := by
  induction h generalizing ts with
  | nil => exact balanced_of_bracketsOf_eq_nil hts
  | @pair o c inner after h hinner hafter ihinner ihafter =>
    have hts : bracketsOf ts = [] ++ o :: (inner ++ c :: after) := hts
    obtain ⟨us, t, rest, rfl, hus, hrest, rfl, ht⟩ := exists_of_bracketsOf_eq_append hts
    obtain ⟨vs, u, ws, rfl, hvs, hws, rfl, hu⟩ := exists_of_bracketsOf_eq_append hrest
    have hmark : ∀ {v : Lexeme}, (v.opens || v.closes) = true → v.kind = .mark := by
      intro v hv
      simp only [Lexeme.opens, Lexeme.closes, Bool.or_eq_true, Bool.and_eq_true, beq_iff_eq] at hv
      exact hv.elim And.left And.left
    have ho : t.word.isOpening = true := by
      rw [Lexeme.isOpening_word]
      simpa [Lexeme.opens, hmark ht] using ⟨_, h⟩
    have hc : u.word.closes? = some t.word.text := Lexeme.closes?_word_iff.mpr ⟨hmark hu, h⟩
    have hbracket := Balanced.bracket ho hc (ihinner hvs)
    have hall := (balanced_of_bracketsOf_eq_nil hus).append (hbracket.append (ihafter hws))
    simpa [wordsOf] using hall

theorem balanced_iff_balancedBrackets (ts : List Lexeme) :
    Balanced (wordsOf ts) ↔ BalancedBrackets (bracketsOf ts) :=
  ⟨balancedBrackets_of_balanced ts, fun h => balanced_of_balancedBrackets h rfl⟩

end ActorDiagram
