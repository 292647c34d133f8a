import ActorDiagram.Issue
import ActorDiagram.Transition.Body

/-!
Transition blocks `when(State) { case Event(...) => body ... }` and the clauses in them, one for
each outcome of a body.
-/

namespace ActorDiagram

/-- One way in which a state answers an event. -/
structure Clause where
  source : String
  event : String
  action : Action
  line : Int
  deriving Repr, DecidableEq

/-- Clauses of a text, and the state of every transition block, both in order. -/
structure Blocks where
  clauses : List Clause
  sources : List String
  deriving Repr, DecidableEq

namespace Blocks

/-- Head `when(State)` of a block: the state as it is written, its id or else the same text, and the
brace of the block. -/
structure BlockHead where
  ref : String
  source : String
  brace : Nat
  deriving Repr, DecidableEq

/-- Brace of the block whose head ends with the bracket at `close`; it may stand in one more
bracket. -/
def braceAfter? (s : Stream) (close : Nat) : Option Nat :=
  if s.hasMark (close + 1) leftBrace then some (close + 1)
  else if s.hasMark (close + 1) "(" && s.hasMark (close + 2) leftBrace then some (close + 2)
  else none

def blockHead? (s : Stream) (states : StateIndex) (i : Nat) : Except Error (Option BlockHead) := do
  let word ← s.token i
  match s.get? (i + 2) with
  | none => .ok none
  | some first =>
    if word.isWord "when" && s.hasMark (i + 1) "(" && first.isIdentifier then
      let close ← s.closer (i + 1)
      let (ref, _) ← s.dotted (i + 2)
      match braceAfter? s close with
      | none => .ok none
      | some brace =>
        let resolved ← states.lookup ref (some first.line) (some first.column)
        .ok (some ⟨ref, resolved.getD ref, brace⟩)
    else .ok none

def noAction (head : BlockHead) (event : String) (line : Int) : Finding where
  code := Finding.clauseNoAction
  message := "clause " ++ Text.quoted event ++ " in when(" ++ head.ref ++
    ") has no recognizable action; skipped"
  line := some line
  hint := none

/-- Clauses of one arm, or the finding that it has none. -/
def ofArm (s : Stream) (states : StateIndex) (head : BlockHead) (a : Arm) :
    Except Error (List Clause × List Finding) := do
  let event ← Pattern.event s (a.start + 1) a.arrow
  let first ← s.token a.start
  let bound ← Pattern.boundNames s (a.start + 1) a.arrow
  let branches ← Body.branches s states (a.arrow + 1) a.stop bound
  if branches.isEmpty then .ok ([], [noAction head event first.line])
  else
    let fanOut := 1 < branches.length
    .ok (branches.map fun b => ⟨head.source, b.labelled event fanOut, b.action, first.line⟩, [])

def ofBlock (s : Stream) (states : StateIndex) (head : BlockHead) :
    Except Error (Blocks × List Finding) := do
  let arms ← Arm.ofBlock s head.brace
  let parts ← arms.mapM (ofArm s states head)
  .ok (⟨parts.flatMap (·.1), [head.source]⟩, parts.flatMap (·.2))

/-- Clauses of the block that starts at `i`, if one does. -/
def blockAt (s : Stream) (states : StateIndex) (i : Nat) :
    Except Error (Blocks × List Finding) := do
  match ← blockHead? s states i with
  | some head => ofBlock s states head
  | none => .ok (⟨[], []⟩, [])

/-- Clauses of all blocks of a stream with balanced brackets, with the findings about them. -/
def ofStream (s : Stream) (states : StateIndex) : Except Error (Blocks × List Finding) := do
  s.requireBalance
  let parts ← (List.range s.size).mapM (blockAt s states)
  .ok (⟨parts.flatMap (·.1.clauses), parts.flatMap (·.1.sources)⟩, parts.flatMap (·.2))

end Blocks

end ActorDiagram
