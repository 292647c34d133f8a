import ActorDiagram.Error
import ActorDiagram.Text.Blank
import ActorDiagram.Text.Reference

/-!
Text in Mermaid labels: on one line, and with the characters that Mermaid gives a meaning written as
entities.
-/

namespace ActorDiagram.Mermaid

/-- Text with its character references decoded, each run of blanks as one space, and no blanks at
the ends. -/
def normalize (cs : List Char) : Except Error (List Char) :=
  match Text.Reference.decode cs with
  | .ok decoded => .ok (Text.trim (Text.collapseBlanks decoded))
  | .error count => .error (.manyDigits count)

/-- Entity of one character. A semicolon ends a statement, so the label of an edge escapes it. -/
def entity (semicolons : Bool) (c : Char) : List Char :=
  if c = ';' && semicolons then ['#', '5', '9', ';']
  else if c = '&' then ['#', 'a', 'm', 'p', ';']
  else if c = '<' then ['#', 'l', 't', ';']
  else if c = '>' then ['#', 'g', 't', ';']
  else if c = '"' then ['#', 'q', 'u', 'o', 't', ';']
  else if c = '|' then ['#', '1', '2', '4', ';']
  else [c]

/-- Text with entities. -/
def escape (semicolons : Bool) (cs : List Char) : List Char := cs.flatMap (entity semicolons)

/-- Normalized text with entities. -/
def escaped (semicolons : Bool) (text : String) : Except Error String :=
  (normalize text.toList).map fun cs => String.ofList (escape semicolons cs)

def nameText (text : String) : Except Error String := escaped false text

def labelText (text : String) : Except Error String := escaped true text

end ActorDiagram.Mermaid
