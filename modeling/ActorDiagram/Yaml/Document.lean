import ActorDiagram.Yaml.Layout
import ActorDiagram.Yaml.Node

/-!
YAML documents: the nodes that tokens make up, and the value of the one document of a text. An alias
is read as the node of its anchor, which has to be complete.
-/

namespace ActorDiagram.Yaml

/-- Tokens that are left, and the nodes with anchors so far. -/
structure Reading where
  tokens : List Token
  anchors : List (String × Node)
  deriving Repr

structure Properties where
  anchor : Option String
  tag : Option String
  deriving Repr, DecidableEq

/-- Where a node stands: in a flow collection, as a block, or as a key or value of a block mapping,
where the items of a list need no indentation of their own. -/
inductive Context where
  | flow
  | block
  | entry
  deriving Repr, DecidableEq

namespace Reading

def peek (r : Reading) : Token := r.tokens.headD .textEnd

def next (r : Reading) : Reading := { r with tokens := r.tokens.tail }

def atAny (r : Reading) (ts : List Token) : Bool := ts.contains r.peek

def unexpected : Token → Fault
  | .stuck fault => fault
  | _ => .malformed

def expect (r : Reading) (t : Token) : Except Fault Reading :=
  if r.peek = t then .ok r.next else .error (unexpected r.peek)

def anchor? (r : Reading) : Option String × Reading :=
  match r.peek with
  | .anchor name => (some name, r.next)
  | _ => (none, r)

def tag? (handles : List (String × String)) (r : Reading) :
    Except Fault (Option String × Reading) :=
  match r.peek with
  | .tag none name => .ok (some name, r.next)
  | .tag (some handle) suffix =>
    match handles.lookup handle with
    | some expansion => .ok (some (expansion ++ suffix), r.next)
    | none => .error .malformed
  | _ => .ok (none, r)

/-- Anchor and tag that stand here, in any order. -/
def properties (handles : List (String × String)) (r : Reading) :
    Except Fault (Properties × Reading) := do
  let (first, r) := r.anchor?
  let (tag, r) ← r.tag? handles
  let (second, r) := if first.isNone && tag.isSome then r.anchor? else (none, r)
  .ok (⟨first.or second, tag⟩, r)

/-- A finished node with its anchor, which no other node may have. -/
def finish (p : Properties) (n : Node) (r : Reading) : Except Fault (Node × Reading) :=
  match p.anchor with
  | none => .ok (n, r)
  | some name =>
    if r.anchors.any (·.1 == name) then .error .malformed
    else .ok (n, { r with anchors := (name, n) :: r.anchors })

def isFree (p : Properties) (r : Reading) : Bool :=
  !p.anchor.any fun name => r.anchors.any (·.1 == name)

mutual

def node (handles : List (String × String)) : (fuel : Nat) → Context → Reading →
    Except Fault (Node × Reading)
  | 0, _, _ => .error .malformed
  | fuel + 1, context, r =>
    match r.peek with
    | .alias name =>
      match r.anchors.lookup name with
      | some n => .ok (n, r.next)
      | none => .error .malformed
    | _ => do
      let (p, r) ← r.properties handles
      if !r.isFree p then
        .error (unexpected r.peek)
      else match r.peek, context with
        | .scalar text plain, _ => finish p (Node.ofText p.tag text plain) r.next
        | .flowSequenceStart, _ => do
          let (items, r) ← flowItems handles fuel true [] r.next
          finish p (.sequence (Node.collectionTag p.tag .sequence) items) r
        | .flowMappingStart, _ => do
          let (entries, r) ← flowEntries handles fuel true [] r.next
          finish p (Node.ofEntries (Node.collectionTag p.tag .mapping) entries) r
        | .blockEntry, .entry => do
          let (items, r) ← bareItems handles fuel [] r
          finish p (.sequence (Node.collectionTag p.tag .sequence) items) r
        | .sequenceStart, .block | .sequenceStart, .entry => do
          let (items, r) ← blockItems handles fuel [] r.next
          finish p (.sequence (Node.collectionTag p.tag .sequence) items) r
        | .mappingStart, .block | .mappingStart, .entry => do
          let (entries, r) ← blockEntries handles fuel [] r.next
          finish p (Node.ofEntries (Node.collectionTag p.tag .mapping) entries) r
        | t, _ =>
          if p.anchor.isNone && p.tag.isNone then .error (unexpected t)
          else finish p (Node.ofText p.tag "" true) r

/-- Node that starts here, unless one of these tokens says that it is left out. -/
def nodeUnless (handles : List (String × String)) : (fuel : Nat) → (stops : List Token) →
    Context → Reading → Except Fault (Node × Reading)
  | 0, _, _, _ => .error .malformed
  | fuel + 1, stops, context, r =>
    if r.atAny stops then .ok (Node.missing, r) else node handles fuel context r

def blockItems (handles : List (String × String)) : (fuel : Nat) → (items : List Node) → Reading →
    Except Fault (List Node × Reading)
  | 0, _, _ => .error .malformed
  | fuel + 1, items, r =>
    match r.peek with
    | .blockEntry => do
      let (item, r) ← nodeUnless handles fuel [.blockEntry, .blockEnd] .block r.next
      blockItems handles fuel (item :: items) r
    | .blockEnd => .ok (items.reverse, r.next)
    | t => .error (unexpected t)

/-- Items of a block sequence that has no indentation of its own. -/
def bareItems (handles : List (String × String)) : (fuel : Nat) → (items : List Node) → Reading →
    Except Fault (List Node × Reading)
  | 0, _, _ => .error .malformed
  | fuel + 1, items, r =>
    match r.peek with
    | .blockEntry => do
      let (item, r) ←
        nodeUnless handles fuel [.blockEntry, .key, .value, .blockEnd] .block r.next
      bareItems handles fuel (item :: items) r
    | _ => .ok (items.reverse, r)

/-- Value after a key: the node after the colon, if there is one. -/
def valueUnless (handles : List (String × String)) : (fuel : Nat) → (stops : List Token) →
    Context → Reading → Except Fault (Node × Reading)
  | 0, _, _, _ => .error .malformed
  | fuel + 1, stops, context, r =>
    match r.peek with
    | .value => nodeUnless handles fuel stops context r.next
    | _ => .ok (Node.missing, r)

def blockEntries (handles : List (String × String)) : (fuel : Nat) →
    (entries : List (Node × Node)) → Reading → Except Fault (List (Node × Node) × Reading)
  | 0, _, _ => .error .malformed
  | fuel + 1, entries, r =>
    match r.peek with
    | .key => do
      let (key, r) ← nodeUnless handles fuel [.key, .value, .blockEnd] .entry r.next
      let (value, r) ← valueUnless handles fuel [.key, .value, .blockEnd] .entry r
      blockEntries handles fuel ((key, value) :: entries) r
    | .blockEnd => .ok (entries.reverse, r.next)
    | t => .error (unexpected t)

/-- Items of a flow sequence. A key with its value is a mapping of one entry. -/
def flowItems (handles : List (String × String)) : (fuel : Nat) → (first : Bool) →
    (items : List Node) → Reading → Except Fault (List Node × Reading)
  | 0, _, _, _ => .error .malformed
  | fuel + 1, first, items, r =>
    if r.peek = .flowSequenceEnd then .ok (items.reverse, r.next)
    else do
      let r ← if first then .ok r else r.expect .flowEntry
      match r.peek with
      | .flowSequenceEnd => .ok (items.reverse, r.next)
      | .key => do
        let (key, r) ←
          nodeUnless handles fuel [.value, .flowEntry, .flowSequenceEnd] .flow r.next
        let (value, r) ← valueUnless handles fuel [.flowEntry, .flowSequenceEnd] .flow r
        flowItems handles fuel false (Node.ofEntries .mapping [(key, value)] :: items) r
      | _ => do
        let (item, r) ← node handles fuel .flow r
        flowItems handles fuel false (item :: items) r

/-- Entries of a flow mapping. A node alone is a key without value. -/
def flowEntries (handles : List (String × String)) : (fuel : Nat) → (first : Bool) →
    (entries : List (Node × Node)) → Reading → Except Fault (List (Node × Node) × Reading)
  | 0, _, _, _ => .error .malformed
  | fuel + 1, first, entries, r =>
    if r.peek = .flowMappingEnd then .ok (entries.reverse, r.next)
    else do
      let r ← if first then .ok r else r.expect .flowEntry
      match r.peek with
      | .flowMappingEnd => .ok (entries.reverse, r.next)
      | .key => do
        let (key, r) ←
          nodeUnless handles fuel [.value, .flowEntry, .flowMappingEnd] .flow r.next
        let (value, r) ← valueUnless handles fuel [.flowEntry, .flowMappingEnd] .flow r
        flowEntries handles fuel false ((key, value) :: entries) r
      | _ => do
        let (key, r) ← node handles fuel .flow r
        flowEntries handles fuel false ((key, Node.missing) :: entries) r

end

/-- Handles of tags that every document has. -/
def usualHandles : List (String × String) := [("!", "!"), ("!!", Tag.schema)]

/-- Handles of tags that the directives here give, after one for the version if there was one. A
directive is not given twice, and the version is the first. -/
def directivesFrom (versioned : Bool) (handles : List (String × String)) :
    List Token → Except Fault (List (String × String) × List Token)
  | .directive (.version major) :: ts =>
    if versioned || major ≠ 1 then .error .malformed else directivesFrom true handles ts
  | .directive (.handle handle expansion) :: ts =>
    if handles.any (·.1 == handle) then .error .malformed
    else directivesFrom versioned ((handle, expansion) :: handles) ts
  | .directive .other :: ts => directivesFrom versioned handles ts
  | ts => .ok (handles, ts)

def directives (r : Reading) : Except Fault (List (String × String) × Reading) :=
  (directivesFrom false [] r.tokens).map fun (handles, tokens) =>
    (handles ++ usualHandles, { r with tokens })

/-- Tokens are read once, and each is looked at a few times on the way. -/
def fuel (r : Reading) : Nat := 4 * r.tokens.length + 4

def skipEnds (r : Reading) : Reading :=
  { r with tokens := r.tokens.dropWhile (· == .documentEnd) }

def nothingElse (r : Reading) : Except Fault Unit :=
  let r := r.skipEnds
  if r.peek = .textEnd then .ok ()
  else do
    let (_, r) ← r.directives
    .error (unexpected r.peek)

/-- Node of the document, if there is a document. A document without directives and mark has to have
a node. -/
def document? (r : Reading) : Except Fault (Option (Node × Reading)) :=
  match r.peek with
  | .textEnd => .ok none
  | .directive _ | .documentStart => do
    let (handles, r) ← r.directives
    let r ← r.expect .documentStart
    match r.peek with
    | .directive _ | .documentStart | .documentEnd | .textEnd => .ok (some (Node.missing, r))
    | _ => (node handles r.fuel .block r).map some
  | _ => (node usualHandles r.fuel .block r).map some

def single (r : Reading) : Except Fault Node := do
  match ← r.document? with
  | none => .ok Node.missing
  | some (n, r) => do
    r.nothingElse
    .ok n

end Reading

def isAllowed (c : Char) : Bool :=
  c = '\t' || c = '\n' || c = '\r' || (' ' ≤ c && c ≤ '~') || c = '\u0085' ||
    (0xa0 ≤ c.toNat && c.toNat ≤ 0xfffd) || 0x10000 ≤ c.toNat

/-- Value of the one document of a text. -/
def read (text : String) : Except Fault Value :=
  let cs := text.toList
  if cs.all isAllowed then do
    let n ← Reading.single ⟨tokensOf cs, []⟩
    n.read
  else .error .malformed

/-- How a reader of settings fails for a fault. Nothing is said about where a text is malformed. -/
def Fault.failure (fault : Fault) : Value.Failure :=
  match fault with
  | .malformed => .malformed fault.message
  | .hugeCharacter => .crash "OverflowError" fault.message
  | .noNumber => .crash "IndexError" fault.message
  | .noTruth _ => .crash "KeyError" fault.message
  | .noDate => .crash "AttributeError" fault.message
  | _ => .refused fault.message

/-- Reader of settings that are written in YAML. -/
def reader : Value.Reader := fun text => (read text).mapError Fault.failure

end ActorDiagram.Yaml
