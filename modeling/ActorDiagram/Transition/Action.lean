/-!
What a clause of a transition block may do, and the branches of a body that does one of several
things.
-/

namespace ActorDiagram

/-- What a clause does. -/
inductive Action where
  | goto (target : String) (payload : Option String)
  | stay (payload : Option String)
  | stop (failure : Bool) (reason : Option String)
  /-- Does what a helper function does. -/
  | call (name : String)
  /-- Goes somewhere that the helper of this name does not tell. -/
  | unresolved (name : String)
  deriving Repr, DecidableEq

/-- One outcome of a body; the label says when it is taken. -/
structure Branch where
  label : Option String
  action : Action
  deriving Repr, DecidableEq

namespace Branch

def nonempty? (text : String) : Option String := if text.isEmpty then none else some text

/-- Label of a branch inside a branch. An empty label counts as none beside another. -/
def joinLabels (outer : String) (inner : Option String) : Option String :=
  match nonempty? outer, inner.bind nonempty? with
  | some a, some b => some (a ++ "/" ++ b)
  | some a, none => some a
  | none, _ => inner

def under (label : String) (b : Branch) : Branch := ⟨joinLabels label b.label, b.action⟩

/-- Label of a clause whose body takes this branch. Branches of a body with one outcome add
nothing. -/
def labelled (event : String) (fanOut : Bool) (b : Branch) : String :=
  match b.label.bind nonempty? with
  | some label => if fanOut then event ++ "/" ++ label else event
  | none => event

end Branch

end ActorDiagram
