import ActorDiagram.Graph
import ActorDiagram.Mermaid.Diagram
import ActorDiagram.State.Declaration

/-!
From source text to a diagram. `Drawing.ofText` stops at the first fault; `Report.ofText` answers
any text, and tells the user about faults in it.
-/

namespace ActorDiagram

/-- Graph of a source text with the findings about it. -/
structure Model where
  graph : Graph
  findings : List Finding
  deriving Repr, DecidableEq

/-- Diagram of a source text with the issues that its settings keep. -/
structure Drawing where
  graph : Graph
  markup : String
  issues : List Issue
  deriving Repr, DecidableEq

namespace Model

/-- Refuses a text that speaks of no machine, at its first token. -/
def checkFound (s : Stream) (states : StateIndex) (blocks : Blocks) : Except Error Unit :=
  if states.decls.isEmpty && blocks.sources.isEmpty then
    let first := s.get? 0
    .error (.source .nothingFound (first.map (·.line)) (first.map (·.column)))
  else .ok ()

def ofStream (s : Stream) : Except Error Model := do
  let states ← StateIndex.ofStream s
  let (blocks, clauseFindings) ← Blocks.ofStream s states
  checkFound s states blocks
  let helpers ← Helper.ofStream s states
  let (clauses, callFindings) := blocks.followHelpers helpers
  let (graph, stateFindings) ← Graph.ofClauses states blocks.sources clauses
  .ok ⟨graph, clauseFindings ++ callFindings ++ stateFindings⟩

end Model

namespace Drawing

/-- Refuses issues that are errors, at the first one. -/
def checkIssues (issues : List Issue) : Except Error Unit :=
  match Issue.errors issues with
  | [] => .ok ()
  | issue :: _ => .error (.source (.escalated issue.message issue.code) issue.line none)

def ofText (text : String) (settings : Settings) : Except Error Drawing := do
  let s ← Stream.ofText text
  let model ← Model.ofStream s
  let issues := settings.rules.apply model.findings
  checkIssues issues
  let markup ← Mermaid.diagram model.graph settings.appearance
  .ok ⟨model.graph, markup, issues⟩

end Drawing

/-- Answer to a source text. -/
inductive Report where
  | ok (markup : String) (issues : List Issue)
  /-- There is nothing to draw yet. -/
  | empty
  /-- The source text is at fault. -/
  | error (diagnosis : Diagnosis)
  deriving Repr, DecidableEq

namespace Report

/-- What the user is told about a text of blanks. -/
def emptyMessage : String := "Enter Akka FSM code to see the diagram"

/-- Markup of an answer. There is none without a diagram. -/
def markup : Report → String
  | .ok markup _ => markup
  | .empty | .error _ => ""

def fault? : Report → Option String
  | .error diagnosis => some diagnosis.message
  | .ok _ _ | .empty => none

/-- Answer to a source text. Faults of the text are part of the answer, other failures are not. -/
def ofText (text : String) (settings : Settings) : Except Error Report :=
  if Text.allBlank text.toList then .ok .empty
  else match Drawing.ofText text settings with
    | .ok drawing => .ok (.ok drawing.markup drawing.issues)
    | .error e =>
      match e.diagnosis? with
      | some diagnosis => .ok (.error diagnosis)
      | none => .error e

end Report

end ActorDiagram
