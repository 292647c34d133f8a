import ActorDiagram.Source.Name
import ActorDiagram.State.Index
import ActorDiagram.Text.LowerCase

/-!
State types: the types whose objects are states. The first type argument of an FSM base type is one,
and so is every trait or class that extends one.
-/

namespace ActorDiagram

/-- Base types whose first type argument is the state type. -/
def machineTypes : List String :=
  ["FSM", "AbstractFSM", "AbstractLoggingFSM", "LoggingFSM", "PersistentFSM",
    "AbstractPersistentFSM", "PersistentFSMBase"]

/-- What one place of the source says about types. -/
inductive TypeFact where
  /-- This type is the argument of a base type. -/
  | stateType (name : String)
  | subtype (name : String) (supers : List String)
  | object (supers : List String)
  deriving Repr, DecidableEq

namespace TypeFact

/-- State type named by the base type before `i`. -/
def argumentAt? (s : Stream) (i : Nat) : Except Error (Option TypeFact) :=
  match s.get? i, s.get? (i + 1) with
  | some bracket, some first =>
    if bracket.isMark "[" && first.isIdentifier then do
      let (name, _) ← s.dotted (i + 1)
      .ok (some (.stateType (String.ofList (Stream.lastSegment name.toList))))
    else .ok none
  | _, _ => .ok none

def declaredAt? (s : Stream) (keyword : Token) (i : Nat) : Except Error (Option TypeFact) :=
  match s.get? i with
  | some name =>
    if name.isIdentifier then do
      let (supers, _) ← s.supertypes (i + 1)
      .ok (some (if keyword.text == "object" then .object supers else .subtype name.text supers))
    else .ok none
  | none => .ok none

def at? (s : Stream) (i : Nat) : Except Error (Option TypeFact) := do
  let t ← s.token i
  if t.isWordOf machineTypes then argumentAt? s (i + 1)
  else if t.isWordOf ["trait", "class", "object"] then declaredAt? s t (i + 1)
  else .ok none

def ofStream (s : Stream) : Except Error (List TypeFact) := do
  let facts ← (List.range s.size).mapM (at? s)
  .ok (facts.filterMap id)

def stateType? : TypeFact → Option String
  | .stateType name => some name
  | _ => none

def subtype? : TypeFact → Option (String × List String)
  | .subtype name supers => some (name, supers)
  | _ => none

def supersOfObject : TypeFact → List String
  | .object supers => supers
  | _ => []

end TypeFact

namespace StateTypes

/-- Adds the types that extend a known one. -/
def grow (subtypes : List (String × List String)) (known : List String) : List String :=
  subtypes.foldl
    (fun known (name, supers) =>
      if !known.contains name && supers.any known.contains then known ++ [name] else known)
    known

def growTimes (subtypes : List (String × List String)) : (rounds : Nat) → List String → List String
  | 0, known => known
  | rounds + 1, known => growTimes subtypes rounds (grow subtypes known)

/-- Known types and all that extend them, directly or through others. A round that adds nothing is
the last that could, so there are no more rounds than subtypes. -/
def closure (subtypes : List (String × List String)) (known : List String) : List String :=
  growTimes subtypes subtypes.length known

def occursIn (part : List Char) : List Char → Bool
  | [] => part.isEmpty
  | c :: cs => part.isPrefixOf (c :: cs) || occursIn part cs

/-- A type name that speaks of states, in capital or small letters. -/
def mentionsState (name : String) : Bool :=
  occursIn ['s', 't', 'a', 't', 'e'] (name.toList.map Text.toLowerCase)

/-- State types by what a stream says about types. Without a base type, the supertypes of objects
that speak of states take their place; `none` says that there are none of those either, and that
every case object is a state. -/
def ofFacts (facts : List TypeFact) : Option (List String) :=
  match distinct (facts.filterMap TypeFact.stateType?) with
  | [] =>
    match distinct ((facts.flatMap TypeFact.supersOfObject).filter mentionsState) with
    | [] => none
    | names => some names
  | names => some (closure (facts.filterMap TypeFact.subtype?) names)

def ofStream (s : Stream) : Except Error (Option (List String)) :=
  (TypeFact.ofStream s).map ofFacts

end StateTypes

end ActorDiagram
