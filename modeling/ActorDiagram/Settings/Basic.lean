import ActorDiagram.Issue
import ActorDiagram.Settings.Value
import ActorDiagram.Text.Blank
import ActorDiagram.Text.Sorted
import ActorDiagram.Text.UpperCase

/-!
Settings: how a diagram is drawn, and what becomes of the findings about its source. They are read
from configuration data, which is refused where it is not what a key asks for.
-/

namespace ActorDiagram

inductive Direction where
  | topBottom
  | leftRight
  | bottomTop
  | rightLeft
  deriving Repr, DecidableEq

namespace Direction

def all : List Direction := [.topBottom, .leftRight, .bottomTop, .rightLeft]

def name : Direction → String
  | .topBottom => "TB"
  | .leftRight => "LR"
  | .bottomTop => "BT"
  | .rightLeft => "RL"

def ofName? (name : String) : Option Direction := all.find? (·.name == name)

end Direction

/-- How a diagram is drawn. The title stands above it in Markdown. -/
structure Appearance where
  direction : Option Direction := none
  theme : Option String := none
  title : String := "FSM diagram"
  deriving Repr, DecidableEq

/-- All settings. Strict ones make warnings fail the command. -/
structure Settings where
  appearance : Appearance := {}
  rules : IssueRules := {}
  strict : Bool := false
  deriving Repr, DecidableEq

/-- Why configuration data is refused. -/
inductive SettingsError where
  /-- Keys that mean nothing, in order. -/
  | unknownKeys (keys : List String)
  /-- A key that means nothing and is not even a text; its type and its index among these keys. -/
  | keyType (index : Nat) (typeName : String)
  /-- Keys of two types that have no order. -/
  | keyOrder (left right : String)
  /-- Keys are dates and times, which have no order. -/
  | dateOrder
  /-- Keys are times with and without an offset, which have no order. -/
  | zoneOrder
  /-- A key asks for a text that is not blank. -/
  | notText (key : String)
  | unknownDirection (name : String)
  /-- `strict` is no truth value. -/
  | notBoolean
  /-- A key asks for a list of codes. -/
  | notCodes (key : String)
  /-- A number among codes has too many digits to be shown. -/
  | overlongNumber
  /-- Codes that no finding has, in order. -/
  | unknownCodes (key : String) (codes : List String)
  deriving Repr, DecidableEq

namespace SettingsError

def message : SettingsError → String
  | .unknownKeys keys => "unknown config key(s): " ++ ", ".intercalate keys
  | .keyType index typeName =>
    "sequence item " ++ toString index ++ ": expected str instance, " ++ typeName ++ " found"
  | .keyOrder left right =>
    "'<' not supported between instances of '" ++ left ++ "' and '" ++ right ++ "'"
  | .dateOrder => "can't compare datetime.datetime to datetime.date"
  | .zoneOrder => "can't compare offset-naive and offset-aware datetimes"
  | .notText key => "config." ++ key ++ " must be a non-empty string"
  | .unknownDirection name =>
    "direction must be one of " ++ ", ".intercalate (Direction.all.map (·.name)) ++ ", got " ++
      Text.quoted name
  | .notBoolean => "config.strict must be a boolean"
  | .notCodes key => "config." ++ key ++ " must be a list of issue codes"
  | .overlongNumber => Text.overlongMessage
  | .unknownCodes key codes =>
    "unknown issue code(s) in config." ++ key ++ ": " ++ ", ".intercalate codes

/-- The data has the right types but values that mean nothing. -/
def isValueError : SettingsError → Bool
  | .unknownKeys _ | .unknownDirection _ | .overlongNumber | .unknownCodes _ _ => true
  | _ => false

end SettingsError

/-- Direction of this name, which has to be one. -/
def Direction.ofName (name : String) : Except SettingsError Direction :=
  match ofName? name with
  | some direction => .ok direction
  | none => .error (.unknownDirection name)

end ActorDiagram
