import ActorDiagram.Text.Utf8
import ActorDiagram.Text.Reference
import ActorDiagram.Yaml.Literal

/-!
What stands before a node, and before a document: anchors, tags and directives.
-/

namespace ActorDiagram.Yaml.Property

def isNamePart (c : Char) : Bool := c.isAlphanum || c == '-' || c == '_'

/-- Characters of a tag. A percent sign starts an escape. -/
def isTagPart (c : Char) : Bool :=
  isNamePart c || [';', '/', '?', ':', '@', '&', '=', '+', '$', ',', '.', '!', '~', '*', '\x27',
    '(', ')', '[', ']', '%'].contains c

def endsPart (k : Cursor) : Bool := k.peek? == some ' ' || endsLine k.peek?

/-- Name of an anchor or alias, after its mark. -/
def name (k : Cursor) : Except Fault (String × Cursor) :=
  let (cs, k) := k.takeWhile isNamePart
  if cs.isEmpty then .error .malformed
  else if endsWord k.peek? || k.peek?.any ['?', ':', ',', ']', '}', '%', '@', '\x60'].contains then
    .ok (String.ofList cs, k)
  else .error .malformed

/-- Bytes of escapes `%hh` from here on. -/
def escapedBytes : List Char → Option (List Nat)
  | '%' :: a :: b :: cs =>
    if Text.Reference.isHexDigit a && Text.Reference.isHexDigit b then
      (escapedBytes cs).map (Text.Reference.numberOf 16 [a, b] :: ·)
    else none
  | '%' :: _ => none
  | _ => some []

/-- Characters of a tag from here on, with its escapes read. -/
def tagFrom : (fuel : Nat) → (done : List Char) → Cursor → Except Fault (List Char × Cursor)
  | 0, done, k => .ok (done.reverse, k)
  | fuel + 1, done, k =>
    match k.rest with
    | [] => .ok (done.reverse, k)
    | c :: _ =>
      if c = '%' then
        match escapedBytes k.rest with
        | none => .error .malformed
        | some bytes =>
          match Text.Utf8.decode bytes with
          | .ok cs => tagFrom fuel (cs.reverse ++ done) (k.skip (3 * bytes.length))
          | .error _ => .error .malformed
      else if isTagPart c then tagFrom fuel (c :: done) k.next
      else .ok (done.reverse, k)

/-- Characters of a tag, of which there is one at least. -/
def tagText (k : Cursor) : Except Fault (String × Cursor) :=
  if k.peek?.any isTagPart then
    (tagFrom k.rest.length [] k).map fun (cs, k) => (String.ofList cs, k)
  else .error .malformed

/-- Handle of tags: one mark alone, or a name between two. -/
def handle (k : Cursor) : Except Fault (String × Cursor) :=
  if k.peek? != some '!' then .error .malformed
  else if k.next.peek? == some ' ' then .ok ("!", k.next)
  else
    let (cs, k) := k.next.takeWhile isNamePart
    if k.peek? == some '!' then .ok (String.ofList ('!' :: cs ++ ['!']), k.next)
    else .error .malformed

/-- Tag whose mark stands here: in full between angle brackets, the mark alone, after a handle, or
after the mark. -/
def tag (k : Cursor) : Except Fault (Token × Cursor) := do
  let first := k.next.peek?
  let (token, k) ←
    if first == some '<' then do
      let (text, k) ← tagText (k.skip 2)
      if k.peek? == some '>' then .ok (Token.tag none text, k.next) else .error .malformed
    else if endsWord first then .ok (Token.tag none "!", k.next)
    else do
      let body := k.next.rest.takeWhile fun c => c != ' ' && !isBreak c
      let (handle, k) ← if body.contains '!' then handle k else .ok ("!", k.next)
      let (text, k) ← tagText k
      .ok (Token.tag (some handle) text, k)
  if endsPart k then .ok (token, k) else .error .malformed

def versionNumber (k : Cursor) : Except Fault (Nat × Cursor) :=
  let (cs, k) := k.takeWhile Char.isDigit
  if cs.isEmpty then .error .malformed else .ok (Text.Reference.numberOf 10 cs, k)

def skipSpaces (k : Cursor) : Cursor := (k.takeWhile (· == ' ')).2

/-- Directive whose mark stands here, to the end of its line. -/
def directive (k : Cursor) : Except Fault (Directive × Cursor) := do
  let (cs, k) := k.next.takeWhile isNamePart
  if cs.isEmpty || !endsPart k then .error .malformed
  else
    let (directive, k) ←
      if cs = ['Y', 'A', 'M', 'L'] then do
        let (major, k) ← versionNumber (skipSpaces k)
        if k.peek? != some '.' then .error .malformed
        else
          let (_, k) ← versionNumber k.next
          if endsPart k then .ok (Directive.version major, k) else .error .malformed
      else if cs = ['T', 'A', 'G'] then do
        let (handle, k) ← handle (skipSpaces k)
        if k.peek? != some ' ' then .error .malformed
        else
          let (text, k) ← tagText (skipSpaces k)
          if endsPart k then .ok (Directive.handle handle text, k) else .error .malformed
      else .ok (Directive.other, (k.takeWhile (!isBreak ·)).2)
    let k ← restOfLine k
    .ok (directive, k)

end ActorDiagram.Yaml.Property
