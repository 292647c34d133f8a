import ActorDiagram.Transition.Helper

/-!
Transition graphs: declared states and three nodes of their own (entry, stop, unknown), with one
edge for each clause whose states are declared.
-/

namespace ActorDiagram

structure Edge where
  source : String
  target : String
  label : String
  deriving Repr, DecidableEq

/-- Graph with its nodes in order: entry, the states as declared, the unknown node if an edge leads
there, stop. The first edge leads from the entry to the entry state, if there is one. -/
structure Graph where
  nodes : List String
  edges : List Edge
  initial : Option String
  /-- Local name of every declared state. -/
  stateNames : List (String × String)
  deriving Repr, DecidableEq

namespace Graph

def entryNode : String := "[*]start"

def stopNode : String := "[*]stop"

def unknownNode : String := "?unknown"

/-- Edges for clauses: all but the one from the entry. -/
def clauseEdges (g : Graph) : List Edge := g.edges.filter (·.source != entryNode)

/-- First state of a block that is declared, or else the first declared state. -/
def initialState (states : StateIndex) (sources : List String) : Option String :=
  match sources.find? states.contains with
  | some source => some source
  | none => states.ids.head?

def endLabel (label : String) (failure : Bool) : String :=
  let marker := if failure then "stop: failure" else "stop"
  if label.isEmpty then marker else label ++ " (" ++ marker ++ ")"

def unknownSourceFinding (c : Transition) : Finding where
  code := Finding.unknownSource
  message := "when(" ++ c.source ++ ") refers to an undeclared state; transition " ++
    Text.quoted c.label ++ " dropped"
  line := some c.line
  hint := some "declare it as `case object Name extends <StateType>`"

def unknownTargetFinding (c : Transition) (target : String) : Finding where
  code := Finding.unknownTarget
  message := "goto(" ++ target ++ ") refers to an undeclared state; transition " ++
    Text.quoted c.label ++ " dropped"
  line := some c.line
  hint := none

/-- Edge of a clause, or the finding that a state of it is not declared. -/
def edgeOf (states : StateIndex) (c : Transition) : Except Error (Edge ⊕ Finding) :=
  if states.contains c.source then
    match c.action with
    | .goto target _ =>
      if states.contains target then .ok (.inl ⟨c.source, target, c.label⟩)
      else .ok (.inr (unknownTargetFinding c target))
    | .stay _ => .ok (.inl ⟨c.source, c.source, c.label⟩)
    | .stop failure _ => .ok (.inl ⟨c.source, stopNode, endLabel c.label failure⟩)
    | .call name => .error (.helperCallLeft name)
    | .unresolved _ => .ok (.inl ⟨c.source, unknownNode, c.label⟩)
  else .ok (.inr (unknownSourceFinding c))

def entryEdges (initial : Option String) : List Edge :=
  initial.toList.map fun state => ⟨entryNode, state, ""⟩

/-- An edge of a declared state leads to the unknown node. -/
def hasUnknown (states : StateIndex) (clauses : List Transition) : Bool :=
  clauses.any fun c => states.contains c.source && (match c.action with
    | .unresolved _ => true
    | _ => false)

/-- Graph of clauses, with the findings about those that are left out. -/
def ofClauses (states : StateIndex) (sources : List String) (clauses : List Transition) :
    Except Error (Graph × List Finding) := do
  let initial := initialState states sources
  let results ← clauses.mapM (edgeOf states)
  let edges := results.filterMap Sum.getLeft?
  let middle := if hasUnknown states clauses then [unknownNode] else []
  .ok (⟨entryNode :: states.ids ++ middle ++ [stopNode], entryEdges initial ++ edges, initial,
    states.stateNames⟩, results.filterMap Sum.getRight?)

end Graph

end ActorDiagram
