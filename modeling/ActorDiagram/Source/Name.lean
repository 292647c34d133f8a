import ActorDiagram.Source.Stream

/-!
Dotted names and type clauses: the parts of source text that states are named and declared with.
-/

namespace ActorDiagram.Stream

/-- Parts `.b`, `.c`, … of a dotted name from the token at `i`. -/
def dottedTail (s : Stream) : (fuel : Nat) → (i : Nat) → List String
  | 0, _ => []
  | fuel + 1, i =>
    match s.get? i, s.get? (i + 1) with
    | some dot, some name =>
      if dot.isMark "." && name.isIdentifier then name.text :: s.dottedTail fuel (i + 2) else []
    | _, _ => []

/-- Parts of the dotted name `a.b.c` that starts at `i`, and the index after it. -/
def dottedParts (s : Stream) (i : Nat) : Except Error (List String × Nat) := do
  let first ← s.token i
  let tail := s.dottedTail s.size (i + 1)
  .ok (first.text :: tail, i + 1 + 2 * tail.length)

def dotted (s : Stream) (i : Nat) : Except Error (String × Nat) := do
  let (parts, next) ← s.dottedParts i
  .ok (".".intercalate parts, next)

/-- What follows the last dot of a text. -/
def lastSegment (name : List Char) : List Char := (name.reverse.takeWhile (· != '.')).reverse

def skipGroupsFrom (s : Stream) : (fuel : Nat) → (i : Nat) → Except Error Nat
  | 0, i => .ok i
  | fuel + 1, i =>
    match s.get? i with
    | some t =>
      if t.isMark "[" || t.isMark "(" then do
        let close ← s.closer i
        s.skipGroupsFrom fuel (close + 1)
      else .ok i
    | none => .ok i

/-- Index after the groups `[...]` and `(...)` that start at `i`. As a group ends after it starts,
the size of the stream is `fuel` enough. -/
def skipGroups (s : Stream) (i : Nat) : Except Error Nat := s.skipGroupsFrom s.size i

/-- Last segments of the types `A[...](...) with B ...` from the token at `i`, and the index after
them. -/
def supertypesFrom (s : Stream) : (fuel : Nat) → (i : Nat) → Except Error (List String × Nat)
  | 0, i => .ok ([], i)
  | fuel + 1, i =>
    match s.get? i with
    | some t =>
      if t.isIdentifier then do
        let (name, next) ← s.dotted i
        let last := String.ofList (lastSegment name.toList)
        let next ← s.skipGroups next
        match s.get? next with
        | some word =>
          if word.isWord "with" then do
            let (names, next) ← s.supertypesFrom fuel (next + 1)
            .ok (last :: names, next)
          else .ok ([last], next)
        | none => .ok ([last], next)
      else .ok ([], i)
    | none => .ok ([], i)

/-- Supertypes of the declaration whose name ends before `i`, and the index after them. Type and
constructor parameters come first. -/
def supertypes (s : Stream) (i : Nat) : Except Error (List String × Nat) := do
  let i ← s.skipGroups i
  match s.get? i with
  | some word => if word.isWord "extends" then s.supertypesFrom s.size (i + 1) else .ok ([], i)
  | none => .ok ([], i)

end ActorDiagram.Stream
