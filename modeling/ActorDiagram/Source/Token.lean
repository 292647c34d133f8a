/-!
Tokens of source text and the places where they start.
-/

namespace ActorDiagram

/-- Place of a character: how many characters precede it, its line and its column. Lines and columns
count from 1. -/
structure Position where
  offset : Nat
  line : Nat
  column : Nat
  deriving Repr, DecidableEq, Inhabited

namespace Position

def start : Position := ⟨0, 1, 1⟩

def next (p : Position) (c : Char) : Position :=
  if c = '\n' then ⟨p.offset + 1, p.line + 1, 1⟩ else ⟨p.offset + 1, p.line, p.column + 1⟩

def after (p : Position) (cs : List Char) : Position := cs.foldl next p

@[simp] theorem after_nil (p : Position) : p.after [] = p := rfl

@[simp] theorem after_append (p : Position) (cs ds : List Char) :
    p.after (cs ++ ds) = (p.after cs).after ds := List.foldl_append

end Position

/-- What a token is. Words in back quotes are identifiers, brackets and `.`, `,`, `;`, `:` are
marks, and every character that fits nothing else is an operator. -/
inductive TokenKind where
  | identifier
  | number
  | string
  | character
  | mark
  | operator
  deriving Repr, DecidableEq, Inhabited

def TokenKind.name : TokenKind → String
  | .identifier => "ident"
  | .number => "number"
  | .string => "string"
  | .character => "char"
  | .mark => "punct"
  | .operator => "op"

/-- Kind and text of a token, and where it starts. -/
structure Lexeme where
  kind : TokenKind
  text : String
  start : Position
  deriving Repr, DecidableEq, Inhabited

/-- Lexeme with the number of brackets that are open around it. A bracket is not inside itself. -/
structure Token extends Lexeme where
  depth : Nat
  deriving Repr, DecidableEq, Inhabited

def leftBrace : String := "\x7b"

def rightBrace : String := "\x7d"

namespace Lexeme

def isIdentifier (t : Lexeme) : Bool := t.kind == .identifier

/-- Identifier of this text. -/
def isWord (t : Lexeme) (text : String) : Bool := t.kind == .identifier && t.text == text

def isWordOf (t : Lexeme) (texts : List String) : Bool :=
  t.kind == .identifier && texts.contains t.text

def isMark (t : Lexeme) (text : String) : Bool := t.kind == .mark && t.text == text

def isOperator (t : Lexeme) (text : String) : Bool := t.kind == .operator && t.text == text

section Tests

variable {t : Lexeme} {text : String} {texts : List String}

theorem isIdentifier_eq_true : t.isIdentifier = true ↔ t.kind = .identifier := by simp [isIdentifier]

theorem isWord_eq_true : t.isWord text = true ↔ t.kind = .identifier ∧ t.text = text := by simp [isWord]

theorem isWordOf_eq_true : t.isWordOf texts = true ↔ t.kind = .identifier ∧ t.text ∈ texts := by
  simp [isWordOf]

theorem isMark_eq_true : t.isMark text = true ↔ t.kind = .mark ∧ t.text = text := by simp [isMark]

theorem isOperator_eq_true : t.isOperator text = true ↔ t.kind = .operator ∧ t.text = text := by
  simp [isOperator]

theorem isIdentifier_of_isWord (h : t.isWord text = true) : t.isIdentifier = true :=
  isIdentifier_eq_true.mpr (isWord_eq_true.mp h).1

theorem isIdentifier_of_isWordOf (h : t.isWordOf texts = true) : t.isIdentifier = true :=
  isIdentifier_eq_true.mpr (isWordOf_eq_true.mp h).1

end Tests

end Lexeme

namespace Token

def line (t : Token) : Nat := t.start.line

def column (t : Token) : Nat := t.start.column

end Token

end ActorDiagram
