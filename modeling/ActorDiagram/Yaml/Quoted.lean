import ActorDiagram.Text.Reference
import ActorDiagram.Yaml.Cursor
import ActorDiagram.Yaml.Token

/-!
Scalars in quotes. Single quotes take everything as it stands; in double quotes a backslash starts
an escape.
-/

namespace ActorDiagram.Yaml.Quoted

/-- Blanks inside a scalar, with the text for them. The scalar must go on. -/
def blanks (k : Cursor) : Except Fault (List Char × Cursor) :=
  let (spaces, k) := k.takeWhile fun c => c == ' ' || c == '\t'
  match k.lineBreak? with
  | none => if k.rest.isEmpty then .error .malformed else .ok (spaces, k)
  | some (first, k) =>
    match Cursor.foldBreaks true true [] k k.rest with
    | (some breaks, k) => .ok (Cursor.folded first breaks, k)
    | (none, _) => .error .malformed

/-- Rest of a scalar in single quotes after the characters `done`, given last first. A quote inside
is written twice. -/
def singleFrom : (fuel : Nat) → (done : List Char) → Cursor → Except Fault (List Char × Cursor)
  | 0, _, _ => .error .malformed
  | fuel + 1, done, k =>
    match k.rest with
    | [] => .error .malformed
    | '\x27' :: '\x27' :: _ => singleFrom fuel ('\x27' :: done) (k.skip 2)
    | '\x27' :: _ => .ok (done.reverse, k.next)
    | c :: _ =>
      if endsWord (some c) then do
        let (text, k) ← blanks k
        singleFrom fuel (text.reverse ++ done) k
      else singleFrom fuel (c :: done) k.next

/-- Character that a backslash and a letter stand for. -/
def escape? (c : Char) : Option Char :=
  [('0', '\x00'), ('a', '\x07'), ('b', '\x08'), ('t', '\t'), ('\t', '\t'), ('n', '\n'),
    ('v', '\x0b'), ('f', '\x0c'), ('r', '\r'), ('e', '\x1b'), (' ', ' '), ('"', '"'),
    ('/', '/'), ('\\', '\\'), ('N', '\u0085'), ('_', '\u00a0'), ('L', '\u2028'),
    ('P', '\u2029')].lookup c

/-- Number of hexadecimal digits that follow a backslash and a letter. -/
def escapeDigits? (c : Char) : Option Nat := [('x', 2), ('u', 4), ('U', 8)].lookup c

def character (n : Nat) : Except Fault Char :=
  if 0x80000000 ≤ n then .error .hugeCharacter
  else if 0x110000 ≤ n then .error .noCharacter
  else .ok (Char.ofNat n)

/-- What a backslash before this place stands for. Before a line break it stands for nothing, and
joins the lines. -/
def escaped (k : Cursor) : Except Fault (List Char × Cursor) :=
  match k.lineBreak?, k.rest with
  | some (_, k), _ =>
    match Cursor.foldBreaks true true [] k k.rest with
    | (some breaks, k) => .ok (breaks, k)
    | (none, _) => .error .malformed
  | none, [] => .error .malformed
  | none, c :: cs =>
    match escape? c, escapeDigits? c with
    | some d, _ => .ok ([d], k.next)
    | none, none => .error .malformed
    | none, some width =>
      let digits := cs.take width
      if digits.length = width && digits.all Text.Reference.isHexDigit then
        (character (Text.Reference.numberOf 16 digits)).map ([·], k.skip (1 + width))
      else .error .malformed

/-- Rest of a scalar in double quotes after the characters `done`, given last first. -/
def doubleFrom : (fuel : Nat) → (done : List Char) → Cursor → Except Fault (List Char × Cursor)
  | 0, _, _ => .error .malformed
  | fuel + 1, done, k =>
    match k.rest with
    | [] => .error .malformed
    | '"' :: _ => .ok (done.reverse, k.next)
    | '\\' :: _ => do
      let (text, k) ← escaped k.next
      doubleFrom fuel (text.reverse ++ done) k
    | c :: _ =>
      if endsWord (some c) then do
        let (text, k) ← blanks k
        doubleFrom fuel (text.reverse ++ done) k
      else doubleFrom fuel (c :: done) k.next

/-- Scalar whose quote stands here. -/
def read (k : Cursor) : Except Fault (List Char × Cursor) :=
  if k.peek? == some '"' then doubleFrom k.rest.length [] k.next
  else singleFrom k.rest.length [] k.next

end ActorDiagram.Yaml.Quoted
