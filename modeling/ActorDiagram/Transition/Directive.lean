import ActorDiagram.Source.Name
import ActorDiagram.State.Index
import ActorDiagram.Text.LowerCase
import ActorDiagram.Transition.Action

/-!
Directives in a body: `goto`, `Target.enter`, `stay` and `stop` with their arguments, and calls of
helper functions, which a body without a directive falls back on.
-/

namespace ActorDiagram

/-- Words that are never the name of a called helper. -/
def wordsNotCalled : List String :=
  ["if", "else", "match", "case", "new", "val", "var", "def", "return", "throw", "try", "catch",
    "finally", "while", "for", "yield", "do", "this", "super", "true", "false", "null", "log",
    "sender", "self", "context", "println", "Event", "StateTimeout", "using", "replying", "forMax"]

namespace Stream

def hasMark (s : Stream) (i : Nat) (text : String) : Bool :=
  match s.get? i with
  | some t => t.isMark text
  | none => false

/-- The token before `i` is this punctuation. -/
def followsMark (s : Stream) (i : Nat) (text : String) : Bool :=
  match s.before? i with
  | some t => t.isMark text
  | none => false

/-- Depth of the first token of a range, 0 for an empty one. -/
def depthAt (s : Stream) (start stop : Nat) : Except Error Nat :=
  if start < stop then (s.token start).map (·.depth) else .ok 0

/-- End of the first argument in a range: its first comma outside inner brackets. -/
def firstArgumentEnd (s : Stream) (start stop : Nat) : Except Error Nat := do
  let depth ← s.depthAt start stop
  let tokens ← s.range start stop
  .ok (((tokens.find? fun (_, t) => t.depth == depth && t.isMark ",").map (·.1)).getD stop)

def skipArgumentsFrom (s : Stream) (stop : Nat) : (fuel : Nat) → (i : Nat) → Except Error Nat
  | 0, i => .ok i
  | fuel + 1, i =>
    if i < stop then do
      let t ← s.token i
      if t.isMark "(" || t.isMark "[" then
        let close ← s.closer i
        s.skipArgumentsFrom stop fuel (close + 1)
      else .ok i
    else .ok i

/-- Index after the groups `(...)` and `[...]` that start at `i` and before `stop`. -/
def skipArguments (s : Stream) (i stop : Nat) : Except Error Nat :=
  s.skipArgumentsFrom stop s.size i

end Stream

namespace Directive

/-- Argument of `.using(...)` whose dot is at `i`. -/
def usingCall? (s : Stream) (i stop : Nat) : Except Error (Option String) :=
  if i + 2 < stop then do
    let word ← s.token (i + 1)
    let paren ← s.token (i + 2)
    if word.isWord "using" && paren.isMark "(" then
      let close ← s.closer (i + 2)
      .ok (Branch.nonempty? (s.text (i + 3) close))
    else .ok none
  else .ok none

/-- Expression after the word `using` at `i`: a dotted name with its arguments. -/
def usingWord? (s : Stream) (i stop : Nat) : Except Error (Option String) :=
  if i + 1 < stop then do
    let first ← s.token (i + 1)
    if first.isIdentifier then
      let (_, next) ← s.dotted (i + 1)
      let next ← s.skipArguments next stop
      .ok (some (s.text (i + 1) (min next stop)))
    else .ok none
  else .ok none

/-- Payload at `i`, after a directive: `using expr` or `.using(expr)`. -/
def payloadAt? (s : Stream) (i stop : Nat) : Except Error (Option String) :=
  if stop ≤ i then .ok none
  else match s.get? i with
    | none => .ok none
    | some t =>
      if t.isMark "." then usingCall? s i stop
      else if t.isWord "using" then usingWord? s i stop
      else .ok none

/-- State that the argument list at `paren` names first, by its id if it is declared. -/
def target? (s : Stream) (states : StateIndex) (paren : Nat) : Except Error (Option String) := do
  let close ← s.closer paren
  match s.get? (paren + 1) with
  | none => .ok none
  | some first =>
    if close ≤ paren + 1 || !first.isIdentifier then .ok none
    else
      let (ref, _) ← s.dotted (paren + 1)
      let resolved ← states.lookup ref (some first.line) (some first.column)
      .ok (some (resolved.getD ref))

def goto? (s : Stream) (states : StateIndex) (i stop : Nat) : Except Error (Option Action) := do
  match ← target? s states (i + 1) with
  | none => .ok none
  | some target =>
    let close ← s.closer (i + 1)
    let payload ← payloadAt? s (close + 1) stop
    .ok (some (.goto target payload))

def enter? (s : Stream) (states : StateIndex) (i : Nat) : Except Error (Option Action) := do
  let dot ← s.token (i + 1)
  let enter ← s.token (i + 2)
  let paren ← s.token (i + 3)
  if dot.isMark "." && enter.isWord "enter" && paren.isMark "(" then
    match ← target? s states (i + 3) with
    | none => .ok none
    | some target =>
      let close ← s.closer (i + 3)
      let comma ← s.firstArgumentEnd (i + 4) close
      .ok (some (.goto target
        (if comma < close then Branch.nonempty? (s.text (comma + 1) close) else none)))
  else .ok none

/-- `stay` at `i`, with or without `()`, with a payload after it. -/
def stay (s : Stream) (hasCall : Bool) (i stop : Nat) : Except Error Action :=
  if hasCall then do
    let close ← s.closer (i + 1)
    (payloadAt? s (close + 1) stop).map .stay
  else (payloadAt? s (i + 1) stop).map .stay

/-- `stop`, `stopSuccess` or `stopFailure` at `i`. A plain `stop` is a failure when its argument
speaks of `Failure`. -/
def stop (s : Stream) (word : String) (hasCall : Bool) (i : Nat) : Except Error Action :=
  if hasCall then do
    let close ← s.closer (i + 1)
    let failure := word == "stopFailure" ||
      (word == "stop" && (s.slice (i + 2) close).any (·.isWord "Failure"))
    .ok (.stop failure (Branch.nonempty? (s.text (i + 2) close)))
  else .ok (.stop (word == "stopFailure") none)

/-- Directive that starts at `i`, in a range that ends before `stop`. -/
def at? (s : Stream) (states : StateIndex) (i stop : Nat) : Except Error (Option Action) := do
  let t ← s.token i
  let hasCall := i + 1 < stop && s.hasMark (i + 1) "("
  if !t.isIdentifier || s.followsMark i "." then .ok none
  else if t.text == "goto" && hasCall then goto? s states i stop
  else if t.text == "Target" && i + 3 < stop then enter? s states i
  else if t.text == "stay" then (Directive.stay s hasCall i stop).map some
  else if ["stop", "stopSuccess", "stopFailure"].contains t.text then
    (Directive.stop s t.text hasCall i).map some
  else .ok none

def startsLowerCase (name : String) : Except Error Bool :=
  match name.toList with
  | c :: _ => .ok (Text.isLowerCase c)
  | [] => .error .emptyIdentifier

/-- The token after a name says that the name is not called: `x.y`, `x = ...`, `x match`, `x: T`. -/
def deniesCall (t : Token) : Bool :=
  !t.isMark "(" && (t.isMark "." || t.kind == .operator || t.isIdentifier || t.isMark ":")

/-- Helper that is called at `i`, in a range that ends before `stop`. Names in `bound` are variables
and no helpers. -/
def call? (s : Stream) (bound : List String) (i stop : Nat) : Except Error (Option Action) := do
  let t ← s.token i
  if !t.isIdentifier || wordsNotCalled.contains t.text then .ok none
  else
    let lower ← startsLowerCase t.text
    let introduced := match s.before? i with
      | some left => left.isMark "." || left.isWordOf ["new", "def", "val", "var"]
      | none => false
    let denied := match s.get? (i + 1) with
      | some right => i + 1 < stop && deniesCall right
      | none => false
    if !lower || bound.contains t.text || introduced || denied then .ok none
    else .ok (some (.call t.text))

def firstIn (search : Nat → Except Error (Option Action)) : List Nat → Except Error (Option Action)
  | [] => .ok none
  | i :: is => do
    match ← search i with
    | some action => .ok (some action)
    | none => firstIn search is

/-- First directive of a range, or else its first call of a helper. -/
def find? (s : Stream) (states : StateIndex) (bound : List String) (start stop : Nat) :
    Except Error (Option Action) := do
  let indices := List.range' start (stop - start)
  match ← firstIn (at? s states · stop) indices with
  | some action => .ok (some action)
  | none => firstIn (call? s bound · stop) indices

end Directive

end ActorDiagram
