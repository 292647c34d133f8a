import ActorDiagram.Transition.Directive

/-!
Case patterns: the arms of a block `{ case pattern => body ... }`, the event that a pattern names,
and the variables that it binds.
-/

namespace ActorDiagram

/-- Text between the quotes of a text in double or single quotes. -/
def stripQuotes (text : String) : String :=
  match text.toList with
  | c :: d :: cs =>
    if (c = '"' || c = '\x27') && (d :: cs).getLast? == some c then
      String.ofList (d :: cs).dropLast
    else text
  | _ => text

/-- Arm of a block: `case` at `start`, `=>` at `arrow`, and the body up to `stop`. -/
structure Arm where
  start : Nat
  arrow : Nat
  stop : Nat
  deriving Repr, DecidableEq

namespace Arm

/-- A token that starts an arm. `case object` and `case class` start declarations. -/
def starts (s : Stream) (i : Nat) (t : Token) : Bool :=
  t.isWord "case" && !(match s.get? (i + 1) with
    | some next => next.isWordOf ["object", "class"]
    | none => false)

/-- Arms that start at these indices, each up to the next or to `stop`; an arm without an arrow is
left out. -/
def ofStarts (s : Stream) (depth stop : Nat) : List Nat → Except Error (List Arm)
  | [] => .ok []
  | start :: rest => do
    let armStop := rest.head?.getD stop
    let tokens ← s.range (start + 1) armStop
    let arms ← ofStarts s depth stop rest
    match tokens.find? fun (_, t) => t.depth == depth && t.isOperator "=>" with
    | some (arrow, _) => .ok (⟨start, arrow, armStop⟩ :: arms)
    | none => .ok arms

/-- Arms directly in the block that opens at `brace`. -/
def ofBlock (s : Stream) (brace : Nat) : Except Error (List Arm) := do
  let close ← s.closer brace
  let opening ← s.token brace
  let depth := opening.depth + 1
  let tokens ← s.range (brace + 1) close
  let starting := tokens.filter fun (i, t) => t.depth == depth && starts s i t
  ofStarts s depth close (starting.map (·.1))

end Arm

namespace Pattern

/-- End of a pattern without its guard: its first `if` outside inner brackets. -/
def guardStart (s : Stream) (start stop : Nat) : Except Error Nat := do
  let depth ← s.depthAt start stop
  let tokens ← s.range start stop
  .ok (((tokens.find? fun (_, t) => t.depth == depth && t.isWord "if").map (·.1)).getD stop)

/-- Event that a pattern names: the first argument of `Event(...)`, or else the pattern itself. -/
def event (s : Stream) (start stop : Nat) : Except Error String := do
  let stop ← guardStart s start stop
  let isEvent := match s.get? start with
    | some first => first.isWord "Event"
    | none => false
  if isEvent && start + 1 < stop && s.hasMark (start + 1) "(" then
    let close ← s.closer (start + 1)
    let argumentEnd ← s.firstArgumentEnd (start + 2) close
    .ok (stripQuotes (s.text (start + 2) argumentEnd))
  else .ok (stripQuotes (s.text start stop))

/-- Label of a branch for this pattern. -/
def text (s : Stream) (start stop : Nat) : Except Error String := do
  let stop ← guardStart s start stop
  .ok (stripQuotes (s.text start stop))

/-- A name at `i` that is a variable by its neighbours: not selected from anything, not applied and
not selected from. -/
def standsAlone (s : Stream) (i stop : Nat) : Bool :=
  !s.followsMark i "." && !(i + 1 < stop && (s.hasMark (i + 1) "(" || s.hasMark (i + 1) "."))

/-- Variables among these tokens of a pattern, added to `names`; a guard binds none. -/
def boundNamesFrom (s : Stream) (depth stop : Nat) (names : List String) :
    List (Nat × Token) → Except Error (List String)
  | [] => .ok names
  | (i, t) :: rest =>
    if t.depth == depth && t.isWord "if" then .ok names
    else if t.isIdentifier then do
      let lower ← Directive.startsLowerCase t.text
      if lower && standsAlone s i stop then boundNamesFrom s depth stop (names ++ [t.text]) rest
      else boundNamesFrom s depth stop names rest
    else boundNamesFrom s depth stop names rest

/-- Variables that a pattern or a parameter list binds. -/
def boundNames (s : Stream) (start stop : Nat) : Except Error (List String) := do
  let depth ← s.depthAt start stop
  let tokens ← s.range start stop
  boundNamesFrom s depth stop [] tokens

end Pattern

end ActorDiagram
