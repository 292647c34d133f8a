import ActorDiagram.Graph
import ActorDiagram.Mermaid.Ident
import ActorDiagram.Mermaid.Label
import ActorDiagram.Settings.Basic
import ActorDiagram.Settings.Json

/-!
Mermaid state diagrams: the markup of a graph. The lines are the theme, the header, the direction,
one declaration for each state, and one line for each edge.
-/

namespace ActorDiagram.Mermaid

def header : String := "stateDiagram-v2"

def noTransitions : String :=
  "stateDiagram-v2\n  NoTransitions : No transitions found\n"

def fenced (markup : String) : String :=
  "```mermaid\n" ++ String.ofList (Text.trimRight markup.toList) ++ "\n```\n"

def initLine (options : Value) : String := "%%\x7binit:" ++ options.json ++ "\x7d%%"

def themeLine (theme : String) : String := initLine (.mapping [(.text "theme", .text theme)])

def directionLine (name : String) : String := "  direction " ++ name

/-- Declaration of a state whose name is its id. -/
def stateLine (name : String) : String := "  " ++ name

/-- Declaration of a state whose name is not its id. -/
def aliasLine (id name : String) : Except Error String :=
  (nameText name).map fun text => "  state \"" ++ text ++ "\" as " ++ id

/-- Edge between two ids. An empty label is left out. -/
def edgeLine (source target label : String) : Except Error String :=
  if label.isEmpty then .ok ("  " ++ source ++ " --> " ++ target)
  else (labelText label).map fun text => "  " ++ source ++ " --> " ++ target ++ " : " ++ text

/-- How a diagram declares a node. -/
inductive Declaration where
  /-- Under its name. -/
  | bare (name : String)
  /-- Under an id beside its name. -/
  | aliased (id name : String)
  deriving Repr, DecidableEq

def Declaration.name : Declaration → String
  | .bare name | .aliased _ name => name

def Declaration.line : Declaration → Except Error String
  | .bare name => .ok (stateLine name)
  | .aliased id name => aliasLine id name

/-- Ids with the names that states are drawn by: the local name where no other state has it, else
the whole id. -/
def shownNames (g : Graph) : List (String × String) :=
  let locals := g.stateNames.map (·.2)
  g.stateNames.map fun (id, name) => (id, if locals.count name == 1 then name else id)

/-- Layout of the states so far: the Mermaid ids that are used, the id of each node, and how the
nodes are declared. -/
structure Layout where
  used : List String
  ids : List (String × String)
  decls : List Declaration
  deriving Repr, DecidableEq

namespace Layout

def idOf? (l : Layout) (node : String) : Option String :=
  (l.ids.reverse.find? (·.1 == node)).map (·.2)

/-- Declares a node that has a name of its own as id. -/
def addBare (l : Layout) (node name : String) : Layout :=
  ⟨l.used, l.ids ++ [(node, name)], l.decls ++ [.bare name]⟩

/-- Declares a node under an unused id like `base`. -/
def addAlias (l : Layout) (node base name : String) : Layout :=
  let (id, used) := claimId base l.used
  ⟨used, l.ids ++ [(node, id)], l.decls ++ [.aliased id name]⟩

/-- Declares a node. The entry and the stop node need no declaration. -/
def add (names : List (String × String)) (l : Layout) (node : String) : Except Error Layout :=
  if node = Graph.entryNode ∨ node = Graph.stopNode then .ok l
  else if node = Graph.unknownNode then .ok (l.addAlias node "Unknown" "?")
  else match names.find? (·.1 == node) with
    | none => .error (.unknownNode node)
    | some (_, name) =>
      .ok (if canBeId name then l.addBare node name else l.addAlias node (idLike name) name)

/-- Layout of a graph's nodes. The names that are ids are taken before any other id is chosen. -/
def ofGraph (g : Graph) : Except Error Layout :=
  let names := shownNames g
  g.nodes.foldlM (add names) ⟨(names.map (·.2)).filter canBeId, [], []⟩

/-- Lines that declare the nodes. -/
def lines (l : Layout) : Except Error (List String) := l.decls.mapM Declaration.line

/-- Mermaid's own mark for a node without declaration, or the id of a declared node. -/
def endpoint (l : Layout) (mark node : String) : Except Error String :=
  if node = mark then .ok "[*]"
  else match l.idOf? node with
    | some id => .ok id
    | none => .error (.unknownNode node)

def edge (l : Layout) (e : Edge) : Except Error String := do
  let source ← l.endpoint Graph.entryNode e.source
  let target ← l.endpoint Graph.stopNode e.target
  edgeLine source target e.label

end Layout

/-- Theme, header and direction. An empty theme is left out. -/
def headLines (appearance : Appearance) : List String :=
  (match appearance.theme with
    | some theme => if theme.isEmpty then [] else [themeLine theme]
    | none => []) ++ [header] ++
  (match appearance.direction with
    | some direction => [directionLine direction.name]
    | none => [])

def joinLines (lines : List String) : String := "\n".intercalate lines ++ "\n"

def diagram (g : Graph) (appearance : Appearance) : Except Error String :=
  if g.clauseEdges.isEmpty then .ok noTransitions
  else do
    let layout ← Layout.ofGraph g
    let decls ← layout.lines
    let edges ← g.edges.mapM layout.edge
    .ok (joinLines (headLines appearance ++ decls ++ edges))

end ActorDiagram.Mermaid
