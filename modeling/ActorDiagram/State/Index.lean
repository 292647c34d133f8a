import ActorDiagram.Error

/-!
Declared states in order of declaration, and how a reference in the source finds one of them.
-/

namespace ActorDiagram

/-- Declared state. Its scope is the dotted path of the groups around it. -/
structure DeclaredState where
  scope : Option String
  name : String
  id : String
  line : Nat
  column : Nat
  deriving Repr, DecidableEq

/-- Id of a state in a scope. An empty scope is none. -/
def qualify (scope : Option String) (name : String) : String :=
  match scope with
  | none => name
  | some path => if path.isEmpty then name else path ++ "." ++ name

/-- Texts without repetitions, each at its first place. -/
def distinct (names : List String) : List String :=
  names.foldl (fun seen name => if seen.contains name then seen else seen ++ [name]) []

/-- What follows each dot of a text, longest first. -/
def dotTails : List Char → List (List Char)
  | [] => []
  | c :: cs => if c = '.' then cs :: dotTails cs else dotTails cs

structure StateIndex where
  decls : List DeclaredState
  deriving Repr, DecidableEq

namespace StateIndex

def empty : StateIndex := ⟨[]⟩

def ids (states : StateIndex) : List String := states.decls.map (·.id)

def contains (states : StateIndex) (id : String) : Bool := states.ids.contains id

/-- Ids that end in a dot and this reference. -/
def endingIn (states : StateIndex) (ref : String) : List String :=
  (distinct states.ids).filter fun id => (('.' :: ref.toList).isSuffixOf id.toList)

def named (states : StateIndex) (name : String) : List String :=
  (states.decls.filter (·.name == name)).map (·.id)

/-- States that a reference may mean when it is no id: those of that local name for a bare name, and
those whose id ends in it for a dotted one. -/
def candidates (states : StateIndex) (ref : String) : List String :=
  if ref.toList.contains '.' then states.endingIn ref else states.named ref

/-- Longest end of a dotted reference that is an id: `Outer.Group.Idle` may mean `Group.Idle`. -/
def longestTail? (states : StateIndex) (ref : String) : Option String :=
  ((dotTails ref.toList).map String.ofList).find? states.contains

/-- Id of the state that a reference means. An ambiguity is reported at the given place. -/
def lookup (states : StateIndex) (ref : String) (line column : Option Int) :
    Except Error (Option String) :=
  if states.contains ref then .ok (some ref)
  else match states.candidates ref with
    | [id] => .ok (some id)
    | [] => .ok (states.longestTail? ref)
    | ids => .error (.source (.ambiguousReference ref ids) line column)

/-- Ids with local names, each id once; the last declaration of an id gives its name. -/
def stateNames (states : StateIndex) : List (String × String) :=
  (distinct states.ids).filterMap fun id =>
    (states.decls.reverse.find? (·.id == id)).map fun d => (id, d.name)

end StateIndex

end ActorDiagram
