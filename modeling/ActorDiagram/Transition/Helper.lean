import ActorDiagram.Transition.Block

/-!
Helper functions: the outcomes of their bodies, and clauses with the outcomes of the helpers that
they call. Helpers are followed one level deep, so helpers that call each other do no harm.
-/

namespace ActorDiagram

/-- Helper function with the outcomes of its body. -/
structure Helper where
  name : String
  branches : List Branch
  line : Int
  deriving Repr, DecidableEq

namespace Helper

/-- Words that end a body without braces. -/
def bodyTerminators : List String :=
  ["def", "val", "var", "lazy", "when", "whenUnhandled", "onTransition", "onTermination",
    "startWith", "initialize", "override", "private", "protected", "final", "implicit", "case",
    "class", "object", "trait"]

/-- A token that ends a body without braces, or a head, of a function at this depth. -/
def endsAt (depth : Nat) (t : Token) : Bool :=
  t.depth < depth || (t.depth == depth && t.isWordOf bodyTerminators)

/-- Parameter names of the lists that start at `i`, added to `names`. -/
def parametersFrom (s : Stream) (names : List String) :
    (fuel : Nat) → (i : Nat) → Except Error (List String)
  | 0, _ => .ok names
  | fuel + 1, i =>
    match s.get? i with
    | some t =>
      if t.isMark "(" then do
        let close ← s.closer i
        let more ← Pattern.boundNames s (i + 1) close
        parametersFrom s (names ++ more) fuel (close + 1)
      else if t.isMark "[" then do
        let close ← s.closer i
        parametersFrom s names fuel (close + 1)
      else .ok names
    | none => .ok names

def parameters (s : Stream) (i : Nat) : Except Error (List String) :=
  parametersFrom s [] s.size (i + 2)

inductive HeadEnd where
  /-- A body in braces, the first of them here. -/
  | braces (i : Nat)
  /-- The sign before the body. -/
  | equals (i : Nat)
  | missing
  deriving Repr, DecidableEq

/-- End of the head of a function at this depth, from the token at `i` on. -/
def headEndFrom (s : Stream) (depth : Nat) : (fuel : Nat) → (i : Nat) → Except Error HeadEnd
  | 0, _ => .ok .missing
  | fuel + 1, i =>
    match s.get? i with
    | none => .ok .missing
    | some t =>
      if t.isMark "(" || t.isMark "[" then do
        let close ← s.closer i
        headEndFrom s depth fuel (close + 1)
      else if t.isMark leftBrace then .ok (.braces i)
      else if t.isOperator "=" then .ok (.equals i)
      else if endsAt depth t then .ok .missing
      else headEndFrom s depth fuel (i + 1)

def bracedBody (s : Stream) (i : Nat) : Except Error (Nat × Nat) :=
  (s.closer i).map fun close => (i + 1, close)

/-- Range of the body without braces that starts at `start`. -/
def plainBody (s : Stream) (depth start : Nat) : Nat × Nat :=
  (start, start + ((s.slice start s.size).takeWhile fun t => !endsAt depth t).length)

/-- Range of the body of the function whose `def` is at `i`, if it has one. -/
def body? (s : Stream) (i : Nat) : Except Error (Option (Nat × Nat)) := do
  let word ← s.token i
  match ← headEndFrom s word.depth s.size (i + 2) with
  | .missing => .ok none
  | .braces brace => (bracedBody s brace).map some
  | .equals sign =>
    match s.get? (sign + 1) with
    | none => .ok none
    | some first =>
      if first.isMark leftBrace then (bracedBody s (sign + 1)).map some
      else .ok (some (plainBody s word.depth (sign + 1)))

def nameAt? (s : Stream) (i : Nat) : Option Token :=
  match s.get? i, s.get? (i + 1) with
  | some word, some name => if word.isWord "def" && name.isIdentifier then some name else none
  | _, _ => none

/-- Helpers defined at these indices, after those that are known. The first definition of a name
that has a body counts. -/
def collect (s : Stream) (states : StateIndex) :
    (known : List Helper) → List Nat → Except Error (List Helper)
  | known, [] => .ok known
  | known, i :: is =>
    match nameAt? s i with
    | none => collect s states known is
    | some name =>
      if known.any (·.name == name.text) then collect s states known is
      else do
        match ← body? s i with
        | none => collect s states known is
        | some (start, stop) =>
          let bound ← parameters s i
          let branches ← Body.branches s states start stop bound
          collect s states (known ++ [⟨name.text, branches, name.line⟩]) is

def ofStream (s : Stream) (states : StateIndex) : Except Error (List Helper) :=
  collect s states [] (List.range s.size)

end Helper

/-- Clause whose helper calls have been followed. -/
structure Transition where
  source : String
  label : String
  action : Action
  line : Int
  deriving Repr, DecidableEq

namespace Clause

def unresolvedFinding (c : Clause) (name reason : String) : Finding where
  code := Finding.unresolvedCall
  message := "local function " ++ Text.quoted name ++ " " ++ reason ++ "; clause " ++
    Text.quoted c.event ++ " routed to the unknown state"
  line := some c.line
  hint := none

def nestedFinding (c : Clause) (name callee : String) : Finding where
  code := Finding.unresolvedCall
  message := "local function " ++ Text.quoted name ++ " defers to " ++ Text.quoted callee ++
    "; nested helper calls are not followed"
  line := some c.line
  hint := none

def takeBranch (c : Clause) (helper : Helper) (b : Branch) : Transition × List Finding :=
  let label := b.labelled c.event (1 < helper.branches.length)
  match b.action with
  | .call callee =>
    (⟨c.source, label, .unresolved callee, c.line⟩, [nestedFinding c helper.name callee])
  | action => (⟨c.source, label, action, c.line⟩, [])

def expandCall (c : Clause) (helpers : List Helper) (name : String) :
    List (Transition × List Finding) :=
  let lost (reason : String) : List (Transition × List Finding) :=
    [(⟨c.source, c.event, .unresolved name, c.line⟩, [c.unresolvedFinding name reason])]
  match helpers.find? (·.name == name) with
  | none => lost "is not defined"
  | some helper =>
    if helper.branches.isEmpty then lost "issues no transition"
    else helper.branches.map (c.takeBranch helper)

def expand (helpers : List Helper) (c : Clause) : List (Transition × List Finding) :=
  match c.action with
  | .call name => c.expandCall helpers name
  | action => [(⟨c.source, c.event, action, c.line⟩, [])]

end Clause

namespace Blocks

/-- Clauses with helpers followed, and the findings about them. -/
def followHelpers (blocks : Blocks) (helpers : List Helper) : List Transition × List Finding :=
  let parts := blocks.clauses.flatMap (Clause.expand helpers)
  (parts.map (·.1), parts.flatMap (·.2))

end Blocks

end ActorDiagram
