import ActorDiagram.Transition.Pattern

/-!
Bodies of clauses and helpers: the outcomes of a range of tokens. `match` arms are labelled with
their patterns, `if` arms with their conditions, the last arm with `else`; labels of nested branches
are joined by `/`.
-/

namespace ActorDiagram.Body

/-- Depth of nested branches up to which bodies are read. -/
def nestingLimit : Nat := 480

def leastDepth : List (Nat × Token) → Nat
  | [] => 0
  | (_, t) :: rest => rest.foldl (fun least (_, u) => min least u.depth) t.depth

/-- End of the arm of an `if` or `else` that starts at `start`: after its braces, or before the
`else` that follows. -/
def armStop (s : Stream) (start stop : Nat) : Except Error Nat :=
  if stop ≤ start then .ok stop
  else do
    let first ← s.token start
    if first.isMark leftBrace then
      (s.closer start).map (· + 1)
    else
      let tokens ← s.range start stop
      .ok (((tokens.find? fun (_, t) => t.depth == first.depth && t.isWord "else").map (·.1)).getD
        stop)

/-- Range of an arm without its braces. -/
def withoutBraces (s : Stream) (start stop : Nat) : Except Error (Nat × Nat) :=
  if start < stop then do
    let first ← s.token start
    if first.isMark leftBrace then
      let close ← s.closer start
      .ok (start + 1, close)
    else .ok (start, stop)
  else .ok (start, stop)

/-- Reader of the outcomes of a range `start, stop` with bound names. -/
abbrev Reader := Nat → Nat → List String → Except Error (List Branch)

def arm (read : Reader) (s : Stream) (bound : List String) (label : String) (start stop : Nat) :
    Except Error (List Branch) := do
  let (start, stop) ← withoutBraces s start stop
  let branches ← read start stop bound
  .ok (branches.map (·.under label))

def ofArms (read : Reader) (s : Stream) (bound : List String) :
    List Arm → Except Error (List Branch)
  | [] => .ok []
  | a :: rest => do
    let label ← Pattern.text s (a.start + 1) a.arrow
    let names ← Pattern.boundNames s (a.start + 1) a.arrow
    let branches ← read (a.arrow + 1) a.stop (bound ++ names)
    let others ← ofArms read s bound rest
    .ok (branches.map (·.under label) ++ others)

/-- The token at `i` is `if` with a condition after it. -/
def startsIf (s : Stream) (i : Nat) : Bool :=
  (match s.get? i with
    | some t => t.isWord "if"
    | none => false) && s.hasMark (i + 1) "("

/-- Outcomes of the chain `if ... else if ... else ...` whose first `if` is at `i`. As each `if` of
a chain comes after the one before, the size of the stream is `fuel` enough. -/
def conditional (read : Reader) (s : Stream) (bound : List String) (stop : Nat) :
    (fuel : Nat) → (i : Nat) → Except Error (List Branch)
  | 0, _ => .error (.source .nestedTooDeeply none none)
  | fuel + 1, i => do
    let close ← s.closer (i + 1)
    let condition := s.text (i + 2) close
    let thenEnd ← armStop s (close + 1) stop
    let branches ← arm read s bound condition (close + 1) thenEnd
    let hasElse := thenEnd < stop && (match s.get? thenEnd with
      | some t => t.isWord "else"
      | none => false)
    if !hasElse then .ok branches
    else if startsIf s (thenEnd + 1) then
      let others ← conditional read s bound stop fuel (thenEnd + 1)
      .ok (branches ++ others)
    else
      let elseEnd ← armStop s (thenEnd + 1) stop
      let others ← arm read s bound "else" (thenEnd + 1) elseEnd
      .ok (branches ++ others)

/-- Outcomes of the first branching among these tokens of a range that ends before `stop`; `none` if
there is none, or if it has no outcome. Only tokens of the least depth count. -/
def branching (read : Reader) (s : Stream) (bound : List String) (stop depth : Nat) :
    List (Nat × Token) → Except Error (Option (List Branch))
  | [] => .ok none
  | (i, t) :: rest =>
    if t.depth != depth then branching read s bound stop depth rest
    else if stop ≤ i + 1 || (s.get? (i + 1)).isNone then .ok none
    else if t.isWord "match" && s.hasMark (i + 1) leftBrace then do
      let arms ← Arm.ofBlock s (i + 1)
      let branches ← ofArms read s bound arms
      .ok (if branches.isEmpty then none else some branches)
    else if t.isWord "if" && s.hasMark (i + 1) "(" then do
      let branches ← conditional read s bound stop s.size i
      .ok (if branches.isEmpty then none else some branches)
    else branching read s bound stop depth rest

/-- Outcomes of a range, with a reader for the ranges inside it: those of its first branching, or
else its one directive or helper call. -/
def branchesWith (read : Reader) (s : Stream) (states : StateIndex) : Reader :=
  fun start stop bound =>
    if stop ≤ start then .ok []
    else do
      let tokens ← s.range start stop
      match ← branching read s bound stop (leastDepth tokens) tokens with
      | some branches => .ok branches
      | none =>
        let action ← Directive.find? s states bound start stop
        .ok (action.toList.map fun a => ⟨none, a⟩)

/-- Outcomes of a range whose branches nest less than `limit` deep. -/
def branchesWithin (s : Stream) (states : StateIndex) : (limit : Nat) → Reader
  | 0 => fun _ _ _ => .error (.source .nestedTooDeeply none none)
  | limit + 1 => branchesWith (branchesWithin s states limit) s states

def branches (s : Stream) (states : StateIndex) : Reader := branchesWithin s states nestingLimit

end ActorDiagram.Body
