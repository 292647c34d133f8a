import ActorDiagram.Settings.Date
import ActorDiagram.Text.Decimal
import ActorDiagram.Text.DigitLimit
import ActorDiagram.Text.Quoted

/-!
Values of configuration data, before it is known whether they are what is asked for.
-/

namespace ActorDiagram

/-- Value of configuration data. The entries of a mapping are in order and have distinct keys. -/
inductive Value where
  | null
  | bool (b : Bool)
  | int (n : Int)
  | float (x : Text.Binary64)
  | text (s : String)
  | date (d : Date)
  | dateTime (t : DateTime)
  | list (items : List Value)
  | mapping (entries : List (Value × Value))
  /-- Value of another type, by the name of the type and its text. It may count as not given. -/
  | other (type shown : String) (void : Bool)
  deriving Repr

namespace Value

def typeName : Value → String
  | .null => "NoneType"
  | .bool _ => "bool"
  | .int _ => "int"
  | .float _ => "float"
  | .text _ => "str"
  | .date _ => "date"
  | .dateTime _ => "datetime"
  | .list _ => "list"
  | .mapping _ => "dict"
  | .other type _ _ => type

/-- Name of the type of a value with the name of the library that the type belongs to. -/
def fullTypeName : Value → String
  | .date _ => "datetime.date"
  | .dateTime _ => "datetime.datetime"
  | v => v.typeName

/-- A value that counts as not given: null, false, zero, or nothing inside. -/
def isVoid : Value → Bool
  | .null => true
  | .bool b => !b
  | .int n => n == 0
  | .float x => x.isZero
  | .text s => s.isEmpty
  | .date _ | .dateTime _ => false
  | .list items => items.isEmpty
  | .mapping entries => entries.isEmpty
  | .other _ _ void => void

mutual

/-- Text of a value inside another: texts are quoted. -/
def inner : Value → String
  | .null => "None"
  | .bool b => if b then "True" else "False"
  | .int n => toString n
  | .float x => String.ofList x.text
  | .text s => Text.quoted s
  | .date d => "datetime.date(" ++ ", ".intercalate d.numbers ++ ")"
  | .dateTime t => "datetime.datetime(" ++ ", ".intercalate (t.numbers ++
      t.offset.toList.map fun offset => "tzinfo=" ++ DateTime.zoneText offset) ++ ")"
  | .list items => "[" ++ innerItems items ++ "]"
  | .mapping entries => "\x7b" ++ innerEntries entries ++ "\x7d"
  | .other _ shown _ => shown

def innerItems : List Value → String
  | [] => ""
  | [v] => inner v
  | v :: w :: vs => inner v ++ ", " ++ innerItems (w :: vs)

def innerEntries : List (Value × Value) → String
  | [] => ""
  | [(k, v)] => inner k ++ ": " ++ inner v
  | (k, v) :: e :: es => inner k ++ ": " ++ inner v ++ ", " ++ innerEntries (e :: es)

end

mutual

/-- The text of a value would hold a number with too many digits. -/
def isOverlong : Value → Bool
  | .int n => Text.isOverlong n
  | .list items => anyOverlong items
  | .mapping entries => anyEntryOverlong entries
  | _ => false

def anyOverlong : List Value → Bool
  | [] => false
  | v :: vs => isOverlong v || anyOverlong vs

def anyEntryOverlong : List (Value × Value) → Bool
  | [] => false
  | (k, v) :: es => isOverlong k || isOverlong v || anyEntryOverlong es

end

/-- Text of a value: of a text the text itself. -/
def display : Value → String
  | .text s => s
  | .date d => d.text
  | .dateTime t => t.text
  | v => v.inner

def get? (entries : List (Value × Value)) (key : String) : Option Value :=
  (entries.find? fun (k, _) => match k with
    | .text s => s == key
    | _ => false).map (·.2)

/-- Why configuration text gives no value. -/
inductive Failure where
  /-- The text breaks a rule of its language. -/
  | malformed (problem : String)
  /-- The text holds something that is no value. -/
  | refused (message : String)
  /-- The reader broke off in another way. -/
  | crash (kind message : String)
  deriving Repr, DecidableEq

/-- Reader of configuration text. -/
abbrev Reader := String → Except Failure Value

end Value

end ActorDiagram
