import ActorDiagram.Source.Bracket
import ActorDiagram.Source.Lexeme

/-!
Token streams: the tokens of a text with their bracket partners, and the normalized text of a range
of tokens. Ranges `start, stop` hold the tokens from `start` up to but not including `stop`.
-/

namespace ActorDiagram

/-- Tokens of a text in order, each with its part in the nesting of brackets. -/
structure Stream where
  tokens : Array Token
  roles : Array BracketRole
  deriving Repr

/-- Bracket that has no partner, with the place where it stands. -/
structure BracketFault where
  cause : Cause
  line : Nat
  column : Nat
  deriving Repr, DecidableEq

namespace Stream

def ofLexemes (ts : List Lexeme) : Stream :=
  let s := BracketState.run ts
  ⟨s.tokens, s.roles⟩

def ofText (text : String) : Except Error Stream := (Lexeme.ofText text).map ofLexemes

def size (s : Stream) : Nat := s.tokens.size

def get? (s : Stream) (i : Nat) : Option Token := s.tokens[i]?

def before? (s : Stream) (i : Nat) : Option Token := if i = 0 then none else s.get? (i - 1)

/-- Token at an index that has to be there. -/
def token (s : Stream) (i : Nat) : Except Error Token :=
  match s.get? i with
  | some t => .ok t
  | none => .error .noToken

theorem token_eq_ok_iff {s : Stream} {i : Nat} {t : Token} :
    s.token i = .ok t ↔ s.get? i = some t := by
  unfold token
  cases s.get? i <;> simp

theorem get?_of_lt {s : Stream} {i : Nat} (h : i < s.size) : s.get? i = some s.tokens[i] :=
  Array.getElem?_eq_getElem h

theorem get?_eq_none {s : Stream} {i : Nat} (h : s.size ≤ i) : s.get? i = none :=
  Array.getElem?_eq_none h

theorem lt_of_get? {s : Stream} {i : Nat} {t : Token} (h : s.get? i = some t) : i < s.size :=
  (Array.getElem?_eq_some_iff.mp h).1

/-- Index of the bracket that closes the one at `i`. -/
def closer (s : Stream) (i : Nat) : Except Error Nat :=
  match s.roles[i]? with
  | some (.opener close) => .ok close
  | _ => do
    let t ← s.token i
    .error (.source .unclosedBracket (some t.line) (some t.column))

theorem closer_eq_ok_iff {s : Stream} {i c : Nat} :
    s.closer i = .ok c ↔ s.roles[i]? = some (.opener c) := by
  unfold closer
  split
  · rename_i close h
    simp [h]
  · rename_i h
    cases s.token i with
    | ok t => exact ⟨fun hc => (by cases hc), fun hr => absurd hr (h c)⟩
    | error e => exact ⟨fun hc => (by cases hc), fun hr => absurd hr (h c)⟩

/-- Tokens of a range with their indices. A range that has tokens lies in the stream. -/
def range (s : Stream) (start stop : Nat) : Except Error (List (Nat × Token)) :=
  (List.range' start (stop - start)).mapM fun i => (s.token i).map (i, ·)

def slice (s : Stream) (start stop : Nat) : List Token :=
  (s.tokens.extract start stop).toList

/-- Opening brackets with the brackets that close them, in order. -/
def pairs (s : Stream) : List (Nat × Nat) :=
  s.roles.toList.zipIdx.filterMap fun
    | (.opener close, i) => some (i, close)
    | _ => none

def problem? (t : Token) : BracketRole → Option BracketFault
  | .unclosed => some ⟨.unclosedBracket, t.line, t.column⟩
  | .unexpected => some ⟨.unexpectedBracket t.text, t.line, t.column⟩
  | _ => none

/-- Brackets without a partner, in the order of the text. -/
def problems (s : Stream) : List BracketFault :=
  (s.tokens.toList.zip s.roles.toList).filterMap fun (t, role) => problem? t role

/-- Refuses a stream with unbalanced brackets at its first one. -/
def requireBalance (s : Stream) : Except Error Unit :=
  match s.problems with
  | [] => .ok ()
  | p :: _ => .error (.source p.cause (some p.line) (some p.column))

theorem requireBalance_eq_ok {s : Stream} (h : s.problems = []) : s.requireBalance = .ok () := by
  rw [requireBalance, h]

/-- Two neighbouring tokens are written with a space between them. -/
def spaced (left right : Token) : Bool :=
  if right.kind == .mark && [".", ",", ")", "]", ":", ";"].contains right.text then false
  else if left.kind == .mark && [".", "(", "["].contains left.text then false
  else if left.isOperator "!" then false
  else if right.kind == .mark && ["(", "["].contains right.text then
    !(left.kind == .identifier || [")", "]"].contains left.text)
  else true

def textAfter (left : Token) : List Token → List Char
  | [] => []
  | t :: ts => (if spaced left t then [' '] else []) ++ t.text.toList ++ textAfter t ts

/-- Normalized text of tokens: what is written does not depend on the layout. -/
def textOf : List Token → String
  | [] => ""
  | t :: ts => String.ofList (t.text.toList ++ textAfter t ts)

def text (s : Stream) (start stop : Nat) : String := textOf (s.slice start stop)

end Stream

end ActorDiagram
