import ActorDiagram.Text.DigitLimit
import ActorDiagram.Text.Quoted

/-!
Tokens of a YAML text, and what can be wrong with one.
-/

namespace ActorDiagram.Yaml

/-- What is wrong with a date. -/
inductive DateFault where
  | year (n : Nat)
  | month
  | day
  | hour
  | minute
  | second
  /-- An offset of a day or more; its text. -/
  | offset (span : String)
  deriving Repr, DecidableEq

/-- What is wrong with a YAML text. -/
inductive Fault where
  /-- The text breaks a rule of YAML, or stands for no value. -/
  | malformed
  /-- An escape names no character. -/
  | noCharacter
  /-- An escape names a number beyond 32 bits with sign. -/
  | hugeCharacter
  /-- A whole number has other characters than digits of its base, or none. -/
  | wholeNumber (base : Nat) (text : String)
  /-- A decimal number has more digits than are read. -/
  | manyDigits (count : Nat)
  /-- A floating-point number is none. -/
  | floatNumber (text : String)
  /-- A number has no text. -/
  | noNumber
  /-- A word is no truth value. -/
  | noTruth (word : String)
  /-- A date is none. -/
  | noDate
  | date (fault : DateFault)
  deriving Repr, DecidableEq

def DateFault.message : DateFault → String
  | .year n => "year " ++ toString n ++ " is out of range"
  | .month => "month must be in 1..12"
  | .day => "day is out of range for month"
  | .hour => "hour must be in 0..23"
  | .minute => "minute must be in 0..59"
  | .second => "second must be in 0..59"
  | .offset span =>
    "offset must be a timedelta strictly between -timedelta(hours=24) and timedelta(hours=24), " ++
      "not " ++ span ++ "."

/-- Words for a fault. Of a malformed text nothing is said. -/
def Fault.message : Fault → String
  | .malformed => ""
  | .noCharacter => "chr() arg not in range(0x110000)"
  | .hugeCharacter => "Python int too large to convert to C int"
  | .wholeNumber base text =>
    "invalid literal for int() with base " ++ toString base ++ ": " ++ Text.quoted text
  | .manyDigits count => Text.manyDigitsMessage count
  | .floatNumber text => "could not convert string to float: " ++ Text.quoted text
  | .noNumber => "string index out of range"
  | .noTruth word => Text.quoted word
  | .noDate => "'NoneType' object has no attribute 'groupdict'"
  | .date fault => fault.message

/-- Directive before a document. -/
inductive Directive where
  /-- Version of YAML, by its first number. -/
  | version (major : Nat)
  /-- A handle of tags, and what it stands for. -/
  | handle (handle expansion : String)
  /-- A directive of no meaning here. -/
  | other
  deriving Repr, DecidableEq

/-- Token of a YAML text. Where collections are told by their indentation, tokens without text say
where they start and end, and where keys do. -/
inductive Token where
  | directive (d : Directive)
  | documentStart
  | documentEnd
  | sequenceStart
  | mappingStart
  | blockEnd
  | flowSequenceStart
  | flowSequenceEnd
  | flowMappingStart
  | flowMappingEnd
  | flowEntry
  | blockEntry
  | key
  | value
  | alias (name : String)
  | anchor (name : String)
  /-- Tag by a handle and what follows it, or in full without a handle. -/
  | tag (handle : Option String) (suffix : String)
  /-- Scalar, and whether it is plain. -/
  | scalar (text : String) (plain : Bool)
  | textEnd
  /-- Here the text cannot be read on. -/
  | stuck (fault : Fault)
  deriving Repr, DecidableEq, Inhabited

end ActorDiagram.Yaml
