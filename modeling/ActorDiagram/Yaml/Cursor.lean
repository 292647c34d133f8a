/-!
Places in a YAML text, its line breaks, and the gaps between its tokens.
-/

namespace ActorDiagram.Yaml

/-- What is left to read, with the number of characters before it, and its line and column, all from
0. -/
structure Cursor where
  rest : List Char
  offset : Nat
  line : Nat
  column : Nat
  deriving Repr, DecidableEq

def isBreak (c : Char) : Bool :=
  c = '\n' || c = '\u0085' || c = '\u2028' || c = '\u2029'

/-- The character ends a line, as the end of the text does. -/
def endsLine : Option Char → Bool
  | none => true
  | some c => isBreak c

def endsWord : Option Char → Bool
  | none => true
  | some c => c = ' ' || c = '\t' || isBreak c

/-- Brackets and commas, which end a word inside a flow collection. -/
def isFlowMark (c : Char) : Bool := [',', '[', ']', '{', '}'].contains c

namespace Cursor

def start (cs : List Char) : Cursor := ⟨cs, 0, 0, 0⟩

/-- After one character. A byte order mark takes no column. -/
def next (k : Cursor) : Cursor :=
  match k.rest with
  | [] => k
  | c :: cs =>
    if isBreak c then ⟨cs, k.offset + 1, k.line + 1, 0⟩
    else ⟨cs, k.offset + 1, k.line, if c = '\ufeff' then k.column else k.column + 1⟩

def skip : (n : Nat) → Cursor → Cursor
  | 0, k => k
  | n + 1, k => skip n k.next

def peek? (k : Cursor) : Option Char := k.rest.head?

def takeWhile (p : Char → Bool) (k : Cursor) : List Char × Cursor :=
  let cs := k.rest.takeWhile p
  (cs, k.skip cs.length)

/-- Line break that stands here, and the place after it. A next-line character is read as a line
feed. -/
def lineBreak? (k : Cursor) : Option (Char × Cursor) :=
  match k.rest with
  | c :: _ => if isBreak c then some (if c = '\u0085' then '\n' else c, k.next) else none
  | [] => none

/-- At `---` or `...` at the start of a line. -/
def atMarker (k : Cursor) (marker : List Char) : Bool :=
  k.column == 0 && marker.isPrefixOf k.rest && endsWord (k.rest.drop marker.length).head?

def atDocumentMark (k : Cursor) : Bool :=
  k.atMarker ['-', '-', '-'] || k.atMarker ['.', '.', '.']

/-- After spaces, line breaks and comments, and whether there was a line break. A tab is no
space. -/
def skipGapFrom (comment crossed : Bool) (k : Cursor) : List Char → Cursor × Bool
  | [] => (k, crossed)
  | c :: cs =>
    if isBreak c then skipGapFrom false true k.next cs
    else if comment || c = ' ' || c = '#' then skipGapFrom (comment || c = '#') crossed k.next cs
    else (k, crossed)

/-- After spaces, line breaks and comments, and whether there was a line break. A byte order mark at
the start of the text is left out. -/
def skipGap (k : Cursor) : Cursor × Bool :=
  let k := if k.offset = 0 && k.peek? == some '\ufeff' then k.next else k
  skipGapFrom false false k k.rest

/-- Line breaks with the spaces around them, and with tabs if `tabs` says so. Gives the line breaks
and the place after them; no line breaks where a mark between documents stops them. -/
def foldBreaks (tabs fresh : Bool) (breaks : List Char) (k : Cursor) :
    List Char → Option (List Char) × Cursor
  | [] => (some breaks.reverse, k)
  | c :: cs =>
    if fresh && k.atDocumentMark then (none, k)
    else if c = ' ' || (tabs && c = '\t') then foldBreaks tabs false breaks k.next cs
    else match k.lineBreak? with
      | some (b, after) => foldBreaks tabs true (b :: breaks) after cs
      | none => (some breaks.reverse, k)

/-- Text for a line break and the empty lines after it: a space for the line break alone, else a
break for each empty line. -/
def folded (first : Char) (breaks : List Char) : List Char :=
  (if first ≠ '\n' then [first] else if breaks.isEmpty then [' '] else []) ++ breaks

end Cursor

end ActorDiagram.Yaml
