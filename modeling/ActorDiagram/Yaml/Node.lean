import ActorDiagram.Settings.Reader
import ActorDiagram.Text.LowerCase
import ActorDiagram.Yaml.Number
import ActorDiagram.Yaml.Timestamp

/-!
Nodes of a YAML document and the values that they stand for. A plain scalar stands for what its text
looks like, a scalar in quotes for its text. What is wrong in a collection is reported before what
is wrong in the collections inside it.
-/

namespace ActorDiagram.Yaml

/-- What a node is said to be. -/
inductive Tag where
  | null
  | bool
  | whole
  | float
  | timestamp
  | text
  | sequence
  | mapping
  /-- Key of what a mapping takes over from others. -/
  | merge
  /-- Key of the value that a mapping stands for. -/
  | default
  /-- A tag of no meaning here. -/
  | unknown
  deriving Repr, DecidableEq

namespace Tag

/-- What the names of the tags have in front. -/
def schema : String := "tag:yaml.org,2002:"

def ofName (name : String) : Tag :=
  (([("null", null), ("bool", bool), ("int", whole), ("float", float), ("timestamp", timestamp),
    ("str", text), ("seq", sequence), ("map", mapping), ("merge", merge),
    ("value", default)].find? fun (short, _) => schema ++ short == name).map (·.2)).getD unknown

def trueWords : List String :=
  ["yes", "Yes", "YES", "true", "True", "TRUE", "on", "On", "ON"]

def falseWords : List String :=
  ["no", "No", "NO", "false", "False", "FALSE", "off", "Off", "OFF"]

def nullWords : List String := ["", "~", "null", "Null", "NULL"]

/-- What the text of a plain scalar looks like. -/
def ofPlain (word : String) : Tag :=
  let cs := word.toList
  if (trueWords ++ falseWords).contains word then bool
  else if nullWords.contains word then null
  else if Number.isFloat cs then float
  else if Number.isWhole cs then whole
  else if (Timestamp.parse? cs).isSome then timestamp
  else if word = "<<" then merge
  else if word = "=" then default
  else if ["!", "&", "*"].contains word then unknown
  else text

end Tag

inductive Node where
  | scalar (tag : Tag) (text : String)
  | sequence (tag : Tag) (items : List Node)
  /-- Entries, those taken over from other mappings first. -/
  | mapping (tag : Tag) (entries : List (Node × Node))
  /-- Mapping that takes over something else than mappings. -/
  | misfit
  deriving Repr

namespace Node

def ofText (tag : Option String) (text : String) (plain : Bool) : Node :=
  match tag with
  | none => .scalar (if plain then Tag.ofPlain text else .text) text
  | some name => .scalar (if name = "!" then Tag.ofPlain text else Tag.ofName name) text

def missing : Node := .scalar .null ""

def collectionTag (tag : Option String) (usual : Tag) : Tag :=
  match tag with
  | none => usual
  | some name => if name = "!" then usual else Tag.ofName name

def entries? : Node → Option (List (Node × Node))
  | .mapping _ entries => some entries
  | _ => none

/-- Entries that a mapping takes over from this node: those of a mapping, or of a list of them, the
last first. -/
def mergedEntries? : Node → Option (List (Node × Node))
  | .mapping _ entries => some entries
  | .sequence _ items => (items.mapM entries?).map fun parts => parts.reverse.flatten
  | _ => none

def isMergeKey : Node → Bool
  | .scalar tag _ => tag == .merge
  | _ => false

/-- Key of an entry. The default key is a text like others. -/
def plainKey : Node → Node
  | .scalar .default text => .scalar .text text
  | key => key

/-- Mapping with what it takes over from others. -/
def ofEntries (tag : Tag) (entries : List (Node × Node)) : Node :=
  match (entries.filter (isMergeKey ·.1)).mapM fun (_, value) => value.mergedEntries? with
  | none => .misfit
  | some merged =>
    let own := (entries.filter (!isMergeKey ·.1)).map fun (key, value) => (key.plainKey, value)
    .mapping tag (merged.flatten ++ own)

def truth? (word : String) : Option Bool :=
  if Tag.trueWords.contains word then some true
  else if Tag.falseWords.contains word then some false
  else none

def timestampValue (t : Timestamp) : Except DateFault Value :=
  match t.clock with
  | none => t.date.map .date
  | some clock => (t.dateTime clock).map .dateTime

def scalarValue (tag : Tag) (text : String) : Except Fault Value :=
  match tag with
  | .null => .ok .null
  | .bool =>
    let word := String.ofList (text.toList.map Text.toLowerCase)
    match truth? word with
    | some b => .ok (.bool b)
    | none => .error (.noTruth word)
  | .whole => (Number.whole text.toList).map .int
  | .float => (Number.float text.toList).map .float
  | .timestamp =>
    match Timestamp.parse? text.toList with
    | some t => (timestampValue t).mapError .date
    | none => .error .noDate
  | .text => .ok (.text text)
  | .sequence | .mapping | .merge | .default | .unknown => .error .malformed

/-- First faults by depth: of two at one depth, that of the left. -/
def overlay : List (Option Fault) → List (Option Fault) → List (Option Fault)
  | [], right => right
  | left, [] => left
  | f :: left, g :: right => f.or g :: overlay left right

def fault? {α : Type} : Except Fault α → Option Fault
  | .ok _ => none
  | .error fault => some fault

/-- What is wrong with a key, which has to be a scalar. -/
def keyFault? : Node → Option Fault
  | .scalar tag text => fault? (scalarValue tag text)
  | _ => some .malformed

mutual

/-- First faults of a node by depth. -/
def faults : Node → List (Option Fault)
  | .scalar tag text => [fault? (scalarValue tag text)]
  | .sequence tag items =>
    if tag = .sequence then none :: itemFaults items else [some .malformed]
  | .mapping tag entries =>
    if tag = .mapping then none :: entryFaults entries else [some .malformed]
  | .misfit => [none, some .malformed]

def itemFaults : List Node → List (Option Fault)
  | [] => []
  | item :: items => overlay (faults item) (itemFaults items)

def entryFaults : List (Node × Node) → List (Option Fault)
  | [] => []
  | (key, value) :: entries =>
    overlay [keyFault? key] (overlay (faults value) (entryFaults entries))

end

/-- Entries with one more. A key that is there already keeps its place and gets the new value. -/
def putEntry (entries : List (Value × Value)) (key value : Value) : List (Value × Value) :=
  if entries.any (·.1.sameKey key) then
    entries.map fun e => if e.1.sameKey key then (e.1, value) else e
  else entries ++ [(key, value)]

/-- Value of a scalar that has one. -/
def scalarOrNull (tag : Tag) (text : String) : Value :=
  match scalarValue tag text with
  | .ok value => value
  | .error _ => .null

mutual

/-- Value of a node without faults. -/
def value : Node → Value
  | .scalar tag text => scalarOrNull tag text
  | .sequence _ items => .list (itemValues items)
  | .mapping _ entries => .mapping (entryValues [] entries)
  | .misfit => .null

def itemValues : List Node → List Value
  | [] => []
  | item :: items => value item :: itemValues items

/-- Entries after those that are `done`. -/
def entryValues (done : List (Value × Value)) : List (Node × Node) → List (Value × Value)
  | [] => done
  | (k, v) :: entries => entryValues (putEntry done (value k) (value v)) entries

end

/-- Value of a node, or what is wrong first: at the least depth, and there first in the text. -/
def read (n : Node) : Except Fault Value :=
  match n.faults.findSome? id with
  | some fault => .error fault
  | none => .ok n.value

end Node

end ActorDiagram.Yaml
