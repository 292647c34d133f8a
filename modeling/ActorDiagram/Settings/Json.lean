import ActorDiagram.Settings.Value
import ActorDiagram.Text.Sorted

/-!
Compact JSON text of a value: no spaces, keys in order, and only ASCII characters.
-/

namespace ActorDiagram

namespace Text

def unitEscape (n : Nat) : List Char := ['\\', 'u'] ++ hexDigits 4 n

/-- One character inside a JSON string. Beyond U+FFFF it takes two units. -/
def jsonChar (c : Char) : List Char :=
  if c = '"' || c = '\\' then ['\\', c]
  else if c = '\n' then ['\\', 'n']
  else if c = '\r' then ['\\', 'r']
  else if c = '\t' then ['\\', 't']
  else if c = '\x08' then ['\\', 'b']
  else if c = '\x0c' then ['\\', 'f']
  else if 32 ≤ c.toNat && c.toNat < 127 then [c]
  else if c.toNat < 0x10000 then unitEscape c.toNat
  else
    unitEscape (0xd800 + (c.toNat - 0x10000) / 0x400) ++
      unitEscape (0xdc00 + (c.toNat - 0x10000) % 0x400)

def jsonString (s : String) : String := String.ofList ('"' :: s.toList.flatMap jsonChar ++ ['"'])

end Text

namespace Value

/-- Text of a key of a JSON object. -/
def jsonKey : Value → String
  | .text s => s
  | .bool b => if b then "true" else "false"
  | .null => "null"
  | v => v.inner

def jsonFloat : Text.Binary64 → String
  | .nan => "NaN"
  | .infinite negative => if negative then "-Infinity" else "Infinity"
  | x => String.ofList x.text

mutual

def json : Value → String
  | .null => "null"
  | .bool b => if b then "true" else "false"
  | .int n => toString n
  | .float x => jsonFloat x
  | .text s => Text.jsonString s
  | .date d => Text.jsonString d.text
  | .dateTime t => Text.jsonString t.text
  | .list items => "[" ++ ",".intercalate (jsonItems items) ++ "]"
  | .mapping entries =>
    "\x7b" ++ ",".intercalate ((Text.sortByKey (·.1) (jsonEntries entries)).map fun (key, value) =>
      Text.jsonString key ++ ":" ++ value) ++ "\x7d"
  | .other _ shown _ => Text.jsonString shown

def jsonItems : List Value → List String
  | [] => []
  | v :: vs => json v :: jsonItems vs

def jsonEntries : List (Value × Value) → List (String × String)
  | [] => []
  | (k, v) :: es => (jsonKey k, json v) :: jsonEntries es

end

end Value

end ActorDiagram
