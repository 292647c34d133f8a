import ActorDiagram.Text.DigitLimit
import ActorDiagram.Text.Quoted

/-!
What can go wrong while a diagram is made from source text. A `Diagnosis` is what the user is shown:
a reason and, where known, a line and column.
-/

namespace ActorDiagram

/-- Reason shown to the user and the place it points at. A column is shown only beside a line. -/
structure Diagnosis where
  reason : String
  line : Option Int
  column : Option Int
  deriving Repr, DecidableEq

/-- Words for the place; empty when no line is known. -/
def Diagnosis.position (d : Diagnosis) : String :=
  match d.line, d.column with
  | none, _ => ""
  | some line, none => "line " ++ toString line
  | some line, some column => "line " ++ toString line ++ ", column " ++ toString column

def Diagnosis.message (d : Diagnosis) : String :=
  let place := d.position
  "Parse error: " ++ d.reason ++ (if place.isEmpty then "" else " at " ++ place)

/-- Why a source text yields no diagram. -/
inductive Cause where
  | unterminatedString
  | unterminatedComment
  /-- A bracket that is needed as an opener has no closing partner. -/
  | unclosedBracket
  /-- A closing bracket has no opener. -/
  | unexpectedBracket (bracket : String)
  /-- Two declarations have one qualified id. -/
  | duplicateState (id : String)
  | ambiguousReference (name : String) (candidates : List String)
  /-- The text declares no state and has no transition block. -/
  | nothingFound
  /-- A warning that the settings treat as an error. -/
  | escalated (message code : String)
  /-- Branches are nested deeper than the reader follows them. -/
  | nestedTooDeeply
  deriving Repr, DecidableEq

def Cause.reason : Cause → String
  | .unterminatedString => "unterminated string literal"
  | .unterminatedComment => "unterminated comment"
  | .unclosedBracket => "unbalanced block"
  | .unexpectedBracket bracket => "unbalanced block: unexpected " ++ Text.quoted bracket
  | .duplicateState id => "duplicate state " ++ Text.quoted id
  | .ambiguousReference name candidates =>
    "ambiguous state reference " ++ Text.quoted name ++
      " (candidates: " ++ ", ".intercalate candidates ++ ")"
  | .nothingFound => "no FSM states or transitions found"
  | .escalated message code => message ++ " [" ++ code ++ "]"
  | .nestedTooDeeply => "input is nested too deeply"

/-- Failure of a stage. All but the first are not diagnoses of the source text: no message for the
user is made of them. -/
inductive Error where
  /-- The source text is at fault, at a line and column where one is known. -/
  | source (cause : Cause) (line column : Option Int)
  /-- The first letter of an identifier without letters was asked for. -/
  | emptyIdentifier
  /-- A token beyond the end was asked for. -/
  | noToken
  /-- A call of a helper is left where transitions are drawn. -/
  | helperCallLeft (name : String)
  /-- An edge names a node that the graph does not have. -/
  | unknownNode (id : String)
  /-- A decimal character reference has more digits than are read. -/
  | manyDigits (count : Nat)
  deriving Repr, DecidableEq

def Error.diagnosis? : Error → Option Diagnosis
  | .source cause line column => some ⟨cause.reason, line, column⟩
  | _ => none

def Error.message : Error → String
  | .source cause line column => (Diagnosis.mk cause.reason line column).message
  | .emptyIdentifier => "string index out of range"
  | .noToken => "tuple index out of range"
  | .helperCallLeft name =>
    "unexpected action after resolution: CallLocal(name=" ++ Text.quoted name ++ ")"
  | .unknownNode id => Text.quoted id
  | .manyDigits count => Text.manyDigitsMessage count

end ActorDiagram
