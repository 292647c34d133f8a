import ActorDiagram.Yaml.Cursor
import ActorDiagram.Yaml.Token

/-!
Block scalars: indented lines after `|`, taken as they stand, or after `>`, with single line breaks
read as spaces.
-/

namespace ActorDiagram.Yaml

/-- After the rest of a line that holds only spaces and a comment. -/
def restOfLine (k : Cursor) : Except Fault Cursor :=
  let (_, k) := k.takeWhile (· == ' ')
  let (_, k) := if k.peek? == some '#' then k.takeWhile (!isBreak ·) else ([], k)
  match k.lineBreak? with
  | some (_, after) => .ok after
  | none => if k.rest.isEmpty then .ok k else .error .malformed

namespace Literal

/-- What becomes of the line breaks at the end. -/
inductive Chomping where
  | strip
  | clip
  | keep
  deriving Repr, DecidableEq

/-- Sign that says what becomes of the line breaks at the end. -/
def chomping? (k : Cursor) : Option Chomping × Cursor :=
  match k.peek? with
  | some '+' => (some .keep, k.next)
  | some '-' => (some .strip, k.next)
  | _ => (none, k)

/-- Digit that says how far the lines are indented. -/
def width? (k : Cursor) : Except Fault (Option Nat × Cursor) :=
  match k.peek? with
  | some c =>
    if c = '0' then .error .malformed
    else if c.isDigit then .ok (some (c.toNat - '0'.toNat), k.next)
    else .ok (none, k)
  | none => .ok (none, k)

/-- Sign and digit, in any order, up to the end of their line. -/
def header (k : Cursor) : Except Fault (Chomping × Option Nat × Cursor) := do
  let (first, k) := chomping? k
  let (width, k) ← width? k
  let (second, k) := if first.isNone && width.isSome then chomping? k else (none, k)
  if k.peek? == some '\t' || !endsWord k.peek? then .error .malformed
  else
    let k ← restOfLine k
    .ok ((first.or second).getD .clip, width, k)

/-- Empty lines before the first line: their breaks, last first, the widest column reached, and the
place after them. -/
def firstLines (breaks : List Char) (widest : Nat) (k : Cursor) :
    List Char → List Char × Nat × Cursor
  | [] => (breaks, widest, k)
  | c :: cs =>
    if c = ' ' then firstLines breaks (if widest < k.next.column then k.next.column else widest)
      k.next cs
    else match k.lineBreak? with
      | some (b, after) => firstLines (b :: breaks) widest after cs
      | none => (breaks, widest, k)

/-- Empty lines between lines: their breaks, last first, and the place after them and the
indentation of the next line. -/
def emptyLines (indent : Nat) (breaks : List Char) (k : Cursor) : List Char → List Char × Cursor
  | [] => (breaks, k)
  | c :: cs =>
    if c = ' ' && k.column < indent then emptyLines indent breaks k.next cs
    else match k.lineBreak? with
      | some (b, after) => emptyLines indent (b :: breaks) after cs
      | none => (breaks, k)

/-- What the lines give: their text and the breaks after it, both last first, and the place after
them. `last` is the break of the last line. -/
structure Lines where
  text : List Char
  last : List Char
  breaks : List Char
  after : Cursor

def startsWithText (k : Cursor) : Bool := k.peek? != some ' ' && k.peek? != some '\t'

/-- Break between two lines, the second of which is at `next` after the empty lines `breaks`. Where
lines are folded, it is a space between lines of text, and nothing before empty lines. -/
def joint (folds : Bool) (line next : Cursor) (last breaks : List Char) : List Char :=
  if folds && last == ['\n'] && startsWithText line && startsWithText next then
    if breaks.isEmpty then [' '] else []
  else last

/-- Lines from here on, after those that gave `done`. -/
def linesFrom (folds : Bool) (indent : Nat) : (fuel : Nat) → (done : Lines) → Lines
  | 0, done => done
  | fuel + 1, ⟨text, last, breaks, k⟩ =>
    if k.column ≠ indent || k.rest.isEmpty then ⟨text, last, breaks, k⟩
    else
      let (line, after) := k.takeWhile (!isBreak ·)
      let (last, after) := match after.lineBreak? with
        | some (b, after) => ([b], after)
        | none => ([], after)
      let (more, next) := emptyLines indent [] after after.rest
      let text := line.reverse ++ breaks ++ text
      if next.column = indent && !next.rest.isEmpty then
        linesFrom folds indent fuel ⟨joint folds k next last more ++ text, last, more, next⟩
      else ⟨text, last, more, next⟩

/-- Block scalar whose mark stands here, inside a collection whose lines are indented by `indent` at
least. -/
def read (folds : Bool) (indent : Nat) (k : Cursor) : Except Fault (List Char × Cursor) := do
  let (chomping, width, k) ← header k.next
  let least := if indent = 0 then 1 else indent
  let (indent, breaks, k) := match width with
    | some width =>
      let (breaks, k) := emptyLines (least + width - 1) [] k k.rest
      (least + width - 1, breaks, k)
    | none =>
      let (breaks, widest, k) := firstLines [] 0 k k.rest
      (if least < widest then widest else least, breaks, k)
  let lines := linesFrom folds indent k.rest.length ⟨[], [], breaks, k⟩
  let ending := match chomping with
    | .strip => []
    | .clip => lines.last
    | .keep => lines.breaks ++ lines.last
  .ok ((ending ++ lines.text).reverse, lines.after)

end Literal

end ActorDiagram.Yaml
