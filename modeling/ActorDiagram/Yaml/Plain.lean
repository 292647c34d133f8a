import ActorDiagram.Yaml.Cursor

/-!
Plain scalars: words without quotes, over one line or several.
-/

namespace ActorDiagram.Yaml.Plain

/-- Characters that no plain scalar starts with, unless it is one of three before a word. -/
def isIndicator (c : Char) : Bool :=
  ['-', '?', ':', ',', '[', ']', '{', '}', '#', '&', '*', '!', '|', '>', '\x27', '"', '%', '@',
    '\x60'].contains c

def starts (flow : Bool) : List Char → Bool
  | [] => false
  | c :: cs =>
    (!isIndicator c && !endsWord (some c)) ||
      (!endsWord cs.head? && (c = '-' || (!flow && (c = '?' || c = ':'))))

/-- Word of a plain scalar: up to a blank, to a colon that ends a word, and inside a flow collection
to its marks. -/
def word (flow : Bool) : List Char → List Char
  | [] => []
  | c :: cs =>
    if endsWord (some c) then []
    else if c = ':' && (endsWord cs.head? || (flow && cs.head?.any isFlowMark)) then []
    else if flow && (isFlowMark c || c = '?') then []
    else c :: word flow cs

/-- Blanks after a word: the text for them, which is empty if the scalar ends; whether there was a
line break; and the place after them. -/
def blanks (k : Cursor) : List Char × Bool × Cursor :=
  let (spaces, k) := k.takeWhile (· == ' ')
  match k.lineBreak? with
  | none => (spaces, false, k)
  | some (first, k) =>
    match Cursor.foldBreaks false true [] k k.rest with
    | (some breaks, k) => (Cursor.folded first breaks, true, k)
    | (none, k) => ([], true, k)

/-- Words from here on, after the characters `done`, given last first, and the blanks before the
next word. Outside flow collections the lines are indented by `indent` at least. -/
def readFrom (flow : Bool) (indent : Nat) : (fuel : Nat) → (done gap : List Char) →
    (crossed : Bool) → Cursor → List Char × Bool × Cursor
  | 0, done, _, crossed, k => (done.reverse, crossed, k)
  | fuel + 1, done, gap, crossed, k =>
    let chars := if k.peek? == some '#' then [] else word flow k.rest
    if chars.isEmpty then (done.reverse, crossed, k)
    else
      let done := chars.reverse ++ gap.reverse ++ done
      let (gap, crossed, k) := blanks (k.skip chars.length)
      if gap.isEmpty || (!flow && k.column < indent) then (done.reverse, crossed, k)
      else readFrom flow indent fuel done gap crossed k

/-- Plain scalar that starts here, whether a line break is the last thing before the next token, and
the place after it. -/
def read (flow : Bool) (indent : Nat) (k : Cursor) : List Char × Bool × Cursor :=
  readFrom flow indent k.rest.length [] [] false k

end ActorDiagram.Yaml.Plain
