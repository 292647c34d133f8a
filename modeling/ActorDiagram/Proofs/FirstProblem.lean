import Mathlib
import ActorDiagram.Drawing
import ActorDiagram.Proofs.BracketReport
import ActorDiagram.Proofs.ReadingStops

/-!
# The first problem with brackets

A text whose brackets do not balance is refused. Declarations are read first, and what they stop at is
reported; only if they stop at nothing is the first problem of the text. What stops them is a bracket
without a partner that they need, or an id that two states have.
-/

namespace ActorDiagram

/-- Failure that points at a problem. -/
def BracketFault.error (p : BracketFault) : Error := .source p.cause (some p.line) (some p.column)

namespace Stream

variable {s : Stream} {e : Error} {p : BracketFault} {rest : List BracketFault}

lemma requireBalance_eq_error (h : s.problems = p :: rest) : s.requireBalance = .error p.error := by
  unfold requireBalance
  rw [h]
  rfl

/-- A bracket whose partner is asked for in vain is a problem of the stream. -/
theorem problem_of_unpartnered (hs : s.Nested) (h : s.Unpartnered e) :
    ∃ q ∈ s.problems, q.cause = .unclosedBracket ∧ e = q.error := by
  obtain ⟨stack, hnested⟩ := hs
  obtain ⟨k, t, ht, hopening, hc⟩ := h
  have hrole : s.roles[k]? = some .unclosed := by
    rcases hnested.opening_role k t ht hopening with hrole | ⟨c, hrole⟩
    · exact hrole
    · rw [closer_eq_ok_iff.mpr hrole] at hc
      cases hc
  refine ⟨⟨.unclosedBracket, t.line, t.column⟩, ?_, rfl, ?_⟩
  · refine List.mem_filterMap.mpr ⟨(t, .unclosed), List.mem_of_getElem? (i := k) ?_, rfl⟩
    rw [List.getElem?_zip_eq_some, Array.getElem?_toList, Array.getElem?_toList]
    exact ⟨ht, hrole⟩
  · exact closer_eq_error ht hc

end Stream

namespace Drawing

variable {text : String} {s : Stream} {p : BracketFault} {rest : List BracketFault}

lemma ofText_of_stops (h : Stream.ofText text = .ok s) {e : Error} (hstates : StateIndex.ofStream s = .error e)
    (settings : Settings) : ofText text settings = .error e := by
  unfold ofText Model.ofStream
  rw [h]
  simp only [Bind.bind, Except.bind, hstates]

lemma ofText_of_problems (h : Stream.ofText text = .ok s) (hproblems : s.problems = p :: rest)
    {states : StateIndex} (hstates : StateIndex.ofStream s = .ok states) (settings : Settings) :
    ofText text settings = .error p.error := by
  unfold ofText Model.ofStream Blocks.ofStream
  rw [h]
  simp only [Bind.bind, Except.bind, hstates, Stream.requireBalance_eq_error hproblems]

/-- A text whose brackets do not balance is refused, whatever the settings: at what stops the reading of
its declarations, and else at its first problem. What stops the reading is one of the problems, an opening
bracket, or a state that repeats an id. -/
theorem ofText_unbalanced (h : Stream.ofText text = .ok s) (hproblems : s.problems = p :: rest) :
    (∃ e, (∀ settings, ofText text settings = .error e) ∧
      (StateIndex.Stops s e ∨ (∀ e', ¬ StateIndex.Stops s e') ∧ e = p.error)) ∧
    (∀ e, StateIndex.Stops s e → (∃ q ∈ s.problems, q.cause = .unclosedBracket ∧ e = q.error) ∨
      ∃ types, StateTypes.ofStream s = .ok types ∧ StateIndex.Repeats s types e) ∧
    ∀ q ∈ rest, p.line < q.line ∨ p.line = q.line ∧ p.column < q.column := by
  have hordered := (Stream.matched_ofText h).ordered
  rw [hproblems, List.pairwise_cons] at hordered
  have hs := Stream.nested_ofText h
  refine ⟨?_, fun e hstops => ?_, hordered.1⟩
  · cases hstates : StateIndex.ofStream s with
    | error e =>
      exact ⟨e, ofText_of_stops h hstates, .inl ((StateIndex.ofStream_eq_error_iff hs).mp hstates)⟩
    | ok states =>
      refine ⟨p.error, ofText_of_problems h hproblems hstates, .inr ⟨fun e' hstops => ?_, rfl⟩⟩
      rw [(StateIndex.ofStream_eq_error_iff hs).mpr hstops] at hstates
      cases hstates
  · exact hstops.unpartnered_or_repeats.imp_left (Stream.problem_of_unpartnered hs)

/-- A state, a bracket that nothing opens and one that nothing closes. -/
def strayBrackets : String := "case object A ) ("

lemma strayBrackets_run : (Stream.ofText strayBrackets).map (fun s =>
    (s.problems, StateIndex.ofStream s)) =
      .ok ([⟨.unexpectedBracket ")", 1, 15⟩, ⟨.unclosedBracket, 1, 17⟩],
        .ok ⟨[⟨none, "A", "A", 1, 13⟩]⟩) := by decide +kernel

theorem ofText_unbalanced_strayBrackets : ∃ s p q, Stream.ofText strayBrackets = .ok s ∧
    s.problems = [p, q] ∧ p.error = .source (.unexpectedBracket ")") (some 1) (some 15) ∧
      (∀ settings, ofText strayBrackets settings = .error p.error) ∧
        (p.line < q.line ∨ p.line = q.line ∧ p.column < q.column) := by
  obtain ⟨s, h, hrun⟩ := map_eq_ok_iff.mp strayBrackets_run
  rw [Prod.mk.injEq] at hrun
  obtain ⟨hproblems, hstates⟩ := hrun
  obtain ⟨⟨e, hrefused, hwhich⟩, -, hordered⟩ := ofText_unbalanced h hproblems
  rcases hwhich with hstops | ⟨-, rfl⟩
  · rw [(StateIndex.ofStream_eq_error_iff (Stream.nested_ofText h)).mpr hstops] at hstates
    cases hstates
  · exact ⟨s, _, _, h, hproblems, rfl, hrefused, hordered _ (List.mem_singleton_self _)⟩

/-- A bracket that nothing opens, before a state whose body has no end. -/
def strayThenUnclosed : String := ") case object A \x7b"

/-- A state declared twice, and a bracket that nothing opens before it. -/
def strayThenRepeated : String := ") case object A case object A"

lemma stray_runs : (Stream.ofText strayThenUnclosed).map (fun s => s.problems) =
      .ok [⟨.unexpectedBracket ")", 1, 1⟩, ⟨.unclosedBracket, 1, 17⟩] ∧
    (Stream.ofText strayThenRepeated).map (fun s => s.problems) =
      .ok [⟨.unexpectedBracket ")", 1, 1⟩] := by decide +kernel

/-- The first problem of a text is not always what is reported: a later one may be, or a repeated id. -/
theorem first_problem_passed_over :
    (∃ s p rest, Stream.ofText strayThenUnclosed = .ok s ∧ s.problems = p :: rest ∧
      p.error = .source (.unexpectedBracket ")") (some 1) (some 1) ∧
        ofText strayThenUnclosed {} = .error (.source .unclosedBracket (some 1) (some 17))) ∧
    ∃ s p rest, Stream.ofText strayThenRepeated = .ok s ∧ s.problems = p :: rest ∧
      p.error = .source (.unexpectedBracket ")") (some 1) (some 1) ∧
        ofText strayThenRepeated {} = .error (.source (.duplicateState "A") (some 1) (some 29)) := by
  obtain ⟨s, h, hproblems⟩ := map_eq_ok_iff.mp stray_runs.1
  obtain ⟨s', h', hproblems'⟩ := map_eq_ok_iff.mp stray_runs.2
  exact ⟨⟨s, _, _, h, hproblems, rfl, by decide +kernel⟩, s', _, _, h', hproblems', rfl, by decide +kernel⟩

end Drawing

end ActorDiagram
