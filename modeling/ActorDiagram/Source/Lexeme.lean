import ActorDiagram.Error
import ActorDiagram.Source.Literal
import ActorDiagram.Source.Token
import ActorDiagram.Text.Blank

/-!
Source text cut into lexemes. All text but blanks and comments becomes a lexeme, so only a comment
or string without an end stops the reading.
-/

namespace ActorDiagram.Lexeme

/-- What stands at the start of a text: `length` characters to leave out, or a lexeme that is
written with `length` characters. -/
inductive Piece where
  | gap (length : Nat)
  | lexeme (kind : TokenKind) (text : List Char) (length : Nat)
  deriving Repr, DecidableEq

def isIdentStart (c : Char) : Bool := Text.isLetter c || c == '_' || c == '$'

def isIdentPart (c : Char) : Bool := Text.isAlphanumeric c || c == '_' || c == '$'

/-- Word between the back quote `c` and the next one on the line. -/
def backQuoted? (c : Char) (cs : List Char) : Option (List Char) :=
  let word := cs.takeWhile fun d => d != '\x60' && d != '\n'
  if c = '\x60' && (cs.drop word.length).head? == some '\x60' then some word else none

def isBracket (c : Char) : Bool := ['(', ')', '[', ']', '{', '}'].contains c

/-- Operators of two characters that stay together. -/
def isDoubleOp (c d : Char) : Bool :=
  [('=', '>'), ('-', '>'), ('<', '-'), (':', ':'), ('=', '='), ('!', '='), ('<', '='), ('>', '='),
    ('&', '&'), ('|', '|')].contains (c, d)

/-- Arrows have a spelling of one character each; it means the same as the one of two. -/
def singleOp (c : Char) : List Char :=
  if c = '\u21d2' then ['=', '>']
  else if c = '\u2192' then ['-', '>']
  else if c = '\u2190' then ['<', '-']
  else [c]

def symbol (c : Char) (cs : List Char) : Piece :=
  if isBracket c then .lexeme .mark [c] 1
  else match cs with
    | d :: _ =>
      if isDoubleOp c d then .lexeme .operator [c, d] 2
      else if ['.', ',', ';', ':'].contains c then .lexeme .mark [c] 1
      else .lexeme .operator (singleOp c) 1
    | [] =>
      if ['.', ',', ';', ':'].contains c then .lexeme .mark [c] 1
      else .lexeme .operator (singleOp c) 1

def verbatim (kind : TokenKind) (length : Nat) (cs : List Char) : Piece :=
  .lexeme kind (cs.take length) length

def piece (c : Char) (cs : List Char) : Except Cause Piece :=
  if Text.isBlank c then .ok (.gap 1)
  else if c = '/' && cs.head? == some '/' then
    .ok (.gap (1 + (cs.takeWhile (· != '\n')).length))
  else if c = '/' && cs.head? == some '*' then
    match Literal.commentLength (c :: cs) with
    | some length => .ok (.gap length)
    | none => .error .unterminatedComment
  else if isIdentStart c then
    .ok (verbatim .identifier (1 + (cs.takeWhile isIdentPart).length) (c :: cs))
  else match backQuoted? c cs with
    | some word => .ok (.lexeme .identifier word (word.length + 2))
    | none =>
      if Text.isDigit c then .ok (verbatim .number (Literal.numberLength (c :: cs)) (c :: cs))
      else if c = '"' then
        match Literal.stringLength (c :: cs) with
        | some length => .ok (verbatim .string length (c :: cs))
        | none => .error .unterminatedString
      else if c = '\x27' then
        match Literal.charLength (c :: cs) with
        | some length => .ok (verbatim .character length (c :: cs))
        | none => .ok (symbol c cs)
      else .ok (symbol c cs)

/-- Lexemes of a text whose first character is at `p`. As every piece has a character, the length of
the text is `fuel` enough. -/
def scan : (fuel : Nat) → Position → List Char → Except Error (List Lexeme)
  | _, _, [] => .ok []
  | 0, _, _ => .ok []
  | fuel + 1, p, c :: cs =>
    match piece c cs with
    | .error cause => .error (.source cause (some p.line) (some p.column))
    | .ok (.gap n) => scan fuel (p.after ((c :: cs).take n)) ((c :: cs).drop n)
    | .ok (.lexeme kind text n) =>
      match scan fuel (p.after ((c :: cs).take n)) ((c :: cs).drop n) with
      | .ok rest => .ok (⟨kind, String.ofList text, p⟩ :: rest)
      | .error e => .error e

def ofText (text : String) : Except Error (List Lexeme) :=
  scan text.toList.length .start text.toList

end ActorDiagram.Lexeme
