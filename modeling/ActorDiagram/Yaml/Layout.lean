import ActorDiagram.Yaml.Plain
import ActorDiagram.Yaml.Property
import ActorDiagram.Yaml.Quoted

/-!
Tokens of a YAML text. The text of a key does not show that it is one: this is known at the colon
after it. So what could be a key is kept in mind, and the token that marks the key is put in before
it when the colon comes.
-/

namespace ActorDiagram.Yaml

/-- What could be a key, if a colon follows: how many flow collections are open around it, how many
tokens are before it, whether nothing but a key can stand there, and its place. -/
structure PendingKey where
  level : Nat
  number : Nat
  required : Bool
  offset : Nat
  line : Nat
  column : Nat
  deriving Repr, DecidableEq

/-- How far a text has been read. -/
structure Layout where
  place : Cursor
  /-- Tokens so far, last first. -/
  tokens : List Token
  count : Nat
  keys : List PendingKey
  /-- Number of open flow collections. -/
  level : Nat
  /-- Column after the one of the innermost block collection; 0 outside of all. -/
  indent : Nat
  /-- The same for the collections around it, innermost first. -/
  outer : List Nat
  /-- A key can start here. -/
  keyAllowed : Bool
  deriving Repr

namespace Layout

def start (cs : List Char) : Layout := ⟨Cursor.start cs, [], 0, [], 0, 0, [], true⟩

def push (s : Layout) (t : Token) (place : Cursor) : Layout :=
  { s with tokens := t :: s.tokens, count := s.count + 1, place }

/-- With a token more before the last ones, so that `number` tokens are before it. -/
def insert (s : Layout) (number : Nat) (t : Token) : Layout :=
  let later := s.count - number
  { s with tokens := s.tokens.take later ++ t :: s.tokens.drop later, count := s.count + 1 }

/-- After blanks and comments. Outside flow collections a key can start on a new line. -/
def skipGap (s : Layout) : Layout :=
  let (place, crossed) := s.place.skipGap
  { s with place, keyAllowed := s.keyAllowed || (crossed && s.level == 0) }

/-- A key ends on its line and within 1024 characters. -/
def isStale (place : Cursor) (key : PendingKey) : Bool :=
  key.line != place.line || key.offset + 1024 < place.offset

/-- Without the keys that can no longer be ones. -/
def dropStale (s : Layout) : Except Fault Layout :=
  if s.keys.any fun key => isStale s.place key && key.required then .error .malformed
  else .ok { s with keys := s.keys.filter (!isStale s.place ·) }

/-- Without a pending key in the innermost flow collection. -/
def dropKey (s : Layout) : Except Fault Layout :=
  if s.keys.any fun key => key.level == s.level && key.required then .error .malformed
  else .ok { s with keys := s.keys.filter (·.level != s.level) }

/-- With what comes next as pending key, if a key can start here. Where a block mapping goes on,
nothing but a key can. -/
def saveKey (s : Layout) : Except Fault Layout :=
  if s.keyAllowed then do
    let s ← s.dropKey
    let required := s.level == 0 && s.indent == s.place.column + 1
    let key := ⟨s.level, s.count, required, s.place.offset, s.place.line, s.place.column⟩
    .ok { s with keys := key :: s.keys }
  else .ok s

/-- Without the block collections that are indented by more than `limit`. -/
def closeBlocks (s : Layout) (limit : Nat) : Layout :=
  if s.level ≠ 0 then s
  else
    let blocks := s.indent :: s.outer
    let ended := (blocks.takeWhile (limit < ·)).length
    let kept := blocks.drop ended
    { s with
      tokens := List.replicate ended Token.blockEnd ++ s.tokens
      count := s.count + ended
      indent := kept.headD 0
      outer := kept.tail }

/-- A block collection at this column starts before token `number`, unless one is open there. -/
def openBlock (s : Layout) (t : Token) (column number : Nat) : Layout :=
  if s.level = 0 && s.indent < column + 1 then
    { s.insert number t with indent := column + 1, outer := s.indent :: s.outer }
  else s

/-- Token that stands outside all blocks, and is no key. -/
def outside (s : Layout) (t : Token) (place : Cursor) : Except Fault Layout := do
  let s ← (s.closeBlocks 0).dropKey
  .ok { s.push t place with keyAllowed := false }

/-- Token that could be a key, or the start of one. -/
def nodePart (s : Layout) (read : Layout → Except Fault (Token × Cursor)) :
    Except Fault Layout := do
  let s ← s.saveKey
  let (token, place) ← read s
  .ok { s.push token place with keyAllowed := false }

def openFlow (s : Layout) (t : Token) : Except Fault Layout := do
  let s ← s.saveKey
  .ok { s.push t s.place.next with level := s.level + 1, keyAllowed := true }

def closeFlow (s : Layout) (t : Token) : Except Fault Layout := do
  let s ← s.dropKey
  .ok { s.push t s.place.next with level := s.level - 1, keyAllowed := false }

def comma (s : Layout) : Except Fault Layout := do
  let s ← s.dropKey
  .ok { s.push .flowEntry s.place.next with keyAllowed := true }

/-- Mark of an item or of a key, which starts a block collection where none is open. -/
def blockMark (s : Layout) (collection mark : Token) (keyAllowed : Bool) :
    Except Fault Layout :=
  if s.level = 0 && !s.keyAllowed then .error .malformed
  else do
    let s ← (s.openBlock collection s.place.column s.count).dropKey
    .ok { s.push mark s.place.next with keyAllowed }

/-- Colon before a value. It tells that the pending key is one; without a pending key it stands for
itself. -/
def colon (s : Layout) : Except Fault Layout :=
  match s.keys.find? (·.level == s.level) with
  | some key =>
    let s := { s with keys := s.keys.filter (·.level != s.level) }
    let s := (s.insert key.number .key).openBlock .mappingStart key.column key.number
    .ok { s.push .value s.place.next with keyAllowed := false }
  | none => s.blockMark .mappingStart .value (s.level == 0)

/-- Plain scalar. After a line break a key can start. -/
def plain (s : Layout) : Except Fault Layout := do
  let s ← s.saveKey
  let (cs, crossed, place) := Plain.read (s.level != 0) s.indent s.place
  .ok { s.push (.scalar (String.ofList cs) true) place with keyAllowed := crossed }

def literal (s : Layout) (folds : Bool) : Except Fault Layout := do
  let s ← s.dropKey
  let (cs, place) ← Literal.read folds s.indent s.place
  .ok { s.push (.scalar (String.ofList cs) false) place with keyAllowed := true }

/-- Reads the token that starts with the character `c`, which `cs` follow. -/
def token (s : Layout) (c : Char) (cs : List Char) : Except Fault Layout :=
  let flow := s.level != 0
  let alone := endsWord cs.head?
  if c = '%' && s.place.column = 0 then do
    let (directive, place) ← Property.directive s.place
    s.outside (.directive directive) place
  else if s.place.atMarker ['-', '-', '-'] then s.outside .documentStart (s.place.skip 3)
  else if s.place.atMarker ['.', '.', '.'] then s.outside .documentEnd (s.place.skip 3)
  else if c = '[' then s.openFlow .flowSequenceStart
  else if c = '{' then s.openFlow .flowMappingStart
  else if c = ']' then s.closeFlow .flowSequenceEnd
  else if c = '}' then s.closeFlow .flowMappingEnd
  else if c = ',' then s.comma
  else if c = '-' && alone then s.blockMark .sequenceStart .blockEntry true
  else if c = '?' && (flow || alone) then s.blockMark .mappingStart .key (!flow)
  else if c = ':' && (flow || alone) then s.colon
  else if c = '*' then s.nodePart fun s => do
    let (name, place) ← Property.name s.place.next
    .ok (.alias name, place)
  else if c = '&' then s.nodePart fun s => do
    let (name, place) ← Property.name s.place.next
    .ok (.anchor name, place)
  else if c = '!' then s.nodePart fun s => Property.tag s.place
  else if c = '|' && !flow then s.literal false
  else if c = '>' && !flow then s.literal true
  else if c = '\x27' || c = '"' then s.nodePart fun s => do
    let (text, place) ← Quoted.read s.place
    .ok (.scalar (String.ofList text) false, place)
  else if Plain.starts flow (c :: cs) then s.plain
  else .error .malformed

/-- Reads the next token; none at the end of the text. -/
def next (s : Layout) : Except Fault (Option Layout) := do
  let s ← s.skipGap.dropStale
  let s := s.closeBlocks (s.place.column + 1)
  match s.place.rest with
  | [] => .ok none
  | c :: cs => (s.token c cs).map some

def finish (s : Layout) : Except Fault Layout := do
  let s ← s.skipGap.dropStale
  let s ← (s.closeBlocks 0).dropKey
  .ok (s.push .textEnd s.place)

/-- Tokens that are known for certain: those before the first pending key. -/
def settled (s : Layout) : List Token :=
  let number := ((s.keys.filter (!isStale s.place ·)).map (·.number)).foldl min s.count
  (s.tokens.drop (s.count - number)).reverse

/-- All tokens, after those read so far. A fault is reported after the tokens that were known for
certain before it. -/
def tokensFrom : (fuel : Nat) → Layout → List Token
  | 0, s => s.settled ++ [.stuck .malformed]
  | fuel + 1, s =>
    match s.next with
    | .error fault => s.settled ++ [.stuck fault]
    | .ok (some s) => tokensFrom fuel s
    | .ok none =>
      match s.finish with
      | .error fault => s.settled ++ [.stuck fault]
      | .ok s => s.tokens.reverse

end Layout

def tokensOf (cs : List Char) : List Token := Layout.tokensFrom (cs.length + 1) (Layout.start cs)

end ActorDiagram.Yaml
