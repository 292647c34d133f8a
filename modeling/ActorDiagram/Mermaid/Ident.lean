/-!
Mermaid ids of states: ASCII letters, digits and underscores, no digit first, and no word that
Mermaid reserves. A state whose name is no id is drawn under another id with its name as alias.
-/

namespace ActorDiagram.Mermaid

def reservedWords : List String :=
  ["state", "note", "end", "direction", "classDef", "class", "style", "as", "left", "right", "of"]

def isIdStart (c : Char) : Bool := c.isAlpha || c == '_'

def isIdPart (c : Char) : Bool := c.isAlphanum || c == '_'

/-- An id by its characters. A line break at the end does not count. -/
def isIdText (cs : List Char) : Bool :=
  let body := if cs.getLast? == some '\n' then cs.dropLast else cs
  body.head?.any isIdStart && body.all isIdPart

/-- A name that can stand in a diagram as its own id. -/
def canBeId (name : String) : Bool := isIdText name.toList && !reservedWords.contains name

/-- Text with each run of other characters as one underscore; `inRun` says that the character before
was another. -/
def maskFrom (inRun : Bool) : List Char → List Char
  | [] => []
  | c :: cs =>
    if isIdPart c then c :: maskFrom false cs
    else if inRun then maskFrom true cs
    else '_' :: maskFrom true cs

/-- Text without underscores at its ends. -/
def stripUnderscores (cs : List Char) : List Char :=
  ((cs.dropWhile (· == '_')).reverse.dropWhile (· == '_')).reverse

/-- Id for a name that is no id. Another name may have the same. -/
def idLike (name : String) : String :=
  let masked := stripUnderscores (maskFrom false name.toList)
  let base := if masked.isEmpty then "anon" else String.ofList masked
  if masked.head?.any Char.isDigit || reservedWords.contains base then "s_" ++ base else base

def numbered (base : String) (n : Nat) : String := base ++ "_" ++ toString n

/-- First numbered id from `n` on that is not used. Of more numbers than used ids one is free, so
`fuel` is their number. -/
def freeFrom (base : String) (used : List String) : (fuel : Nat) → (n : Nat) → String
  | 0, n => numbered base n
  | fuel + 1, n =>
    if used.contains (numbered base n) then freeFrom base used fuel (n + 1) else numbered base n

/-- The base itself, or the base with the least number from 2 on that makes an id not used yet. -/
def freeId (base : String) (used : List String) : String :=
  if used.contains base then freeFrom base used used.length 2 else base

/-- Id not used yet, and the used ids with it. -/
def claimId (base : String) (used : List String) : String × List String :=
  let id := freeId base used
  (id, id :: used)

end ActorDiagram.Mermaid
