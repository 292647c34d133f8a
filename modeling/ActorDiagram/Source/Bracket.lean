import ActorDiagram.Source.Token

/-!
Bracket matching: which opening bracket belongs to which closing one, and how deep every token lies.
-/

namespace ActorDiagram

/-- Part that a token plays in the nesting of brackets. -/
inductive BracketRole where
  | plain
  /-- Opening bracket that is closed by the token at `close`. -/
  | opener (close : Nat)
  /-- Closing bracket of the token at `opening`. -/
  | closer (opening : Nat)
  /-- Opening bracket that is never closed, or only by closing a bracket around it. -/
  | unclosed
  /-- Closing bracket that no bracket is open for. -/
  | unexpected
  deriving Repr, DecidableEq, Inhabited

def closingOf? (opening : String) : Option String :=
  if opening = "(" then some ")"
  else if opening = "[" then some "]"
  else if opening = leftBrace then some rightBrace
  else none

def openingOf? (closing : String) : Option String :=
  if closing = ")" then some "("
  else if closing = "]" then some "["
  else if closing = rightBrace then some leftBrace
  else none

/-- Bracket matching after some tokens: the open brackets, innermost first, with their indices; and
the tokens with their roles. An open bracket counts as unclosed until its partner is read. -/
structure BracketState where
  stack : List (String × Nat)
  tokens : Array Token
  roles : Array BracketRole
  deriving Repr

namespace BracketState

def init : BracketState := ⟨[], #[], #[]⟩

def push (s : BracketState) (t : Lexeme) (role : BracketRole) : BracketState :=
  { s with tokens := s.tokens.push ⟨t, s.stack.length⟩, roles := s.roles.push role }

def readOpener (s : BracketState) (t : Lexeme) : BracketState :=
  { s.push t .unclosed with stack := (t.text, s.tokens.size) :: s.stack }

/-- Reads a closing bracket for `wanted`: it closes the innermost open bracket of that kind, and
brackets opened inside that one stay unclosed. -/
def readCloser (s : BracketState) (t : Lexeme) (wanted : String) : BracketState :=
  match s.stack.dropWhile (·.1 != wanted) with
  | [] => s.push t .unexpected
  | (_, i) :: stack =>
    { s with stack, roles := s.roles.setIfInBounds i (.opener s.tokens.size) }.push t (.closer i)

def step (s : BracketState) (t : Lexeme) : BracketState :=
  if t.kind = .mark then
    if (closingOf? t.text).isSome then s.readOpener t
    else match openingOf? t.text with
      | some wanted => s.readCloser t wanted
      | none => s.push t .plain
  else s.push t .plain

def run (ts : List Lexeme) : BracketState := ts.foldl step init

end BracketState

end ActorDiagram
