import ActorDiagram.Text.Letter

/-!
Extents of comments and literals: each function says how many characters at the start of a text
belong to one of them.
-/

namespace ActorDiagram.Literal

/-- Length of a block comment's rest, `length` characters and `depth` comments into it. Comments
nest. -/
def commentFrom (depth length : Nat) : List Char → Option Nat
  | '/' :: '*' :: cs => commentFrom (depth + 1) (length + 2) cs
  | '*' :: '/' :: cs =>
    if depth = 1 then some (length + 2) else commentFrom (depth - 1) (length + 2) cs
  | _ :: cs => commentFrom depth (length + 1) cs
  | [] => none

def commentLength (cs : List Char) : Option Nat := commentFrom 0 0 cs

/-- Length of a string literal on one line, `length` characters into it. A backslash hides the
character after it, a line break too. -/
def stringFrom (length : Nat) : List Char → Option Nat
  | '\\' :: _ :: cs => stringFrom (length + 2) cs
  | '"' :: _ => some (length + 1)
  | '\n' :: _ => none
  | _ :: cs => stringFrom (length + 1) cs
  | [] => none

/-- Length of a string literal in triple quotes, `length` characters into it. Further quotes right
before the end belong to it. -/
def tripleFrom (length : Nat) : List Char → Option Nat
  | '"' :: '"' :: '"' :: cs => some (length + 3 + (cs.takeWhile (· == '"')).length)
  | _ :: cs => tripleFrom (length + 1) cs
  | [] => none

def stringLength : List Char → Option Nat
  | '"' :: '"' :: '"' :: cs => tripleFrom 3 cs
  | _ :: cs => stringFrom 1 cs
  | [] => none

/-- Length of the character literal that a text starts with: any character but a line break between
two quotes, or a backslash, any character and at most five more. -/
def charLength : List Char → Option Nat
  | _ :: '\\' :: c :: cs =>
    let body := cs.takeWhile (· != '\x27')
    if body.length ≤ 5 && body.length < cs.length && c != '\n' && !body.contains '\n' then
      some (body.length + 4)
    else none
  | _ :: '\\' :: [] => none
  | _ :: c :: '\x27' :: _ => if c = '\n' then none else some 3
  | _ => none

def digitsLength (cs : List Char) : Nat := (cs.takeWhile Text.isDigit).length

def fractionLength : List Char → Nat
  | '.' :: cs => if digitsLength cs = 0 then 0 else 1 + digitsLength cs
  | _ => 0

def signLength : List Char → Nat
  | c :: _ => if c = '+' || c = '-' then 1 else 0
  | [] => 0

def exponentLength : List Char → Nat
  | c :: cs =>
    let sign := signLength cs
    let digits := digitsLength (cs.drop sign)
    if (c = 'e' || c = 'E') && digits != 0 then 1 + sign + digits else 0
  | [] => 0

/-- Length of the letter that names a number's type. -/
def suffixLength : List Char → Nat
  | c :: _ => if ['l', 'L', 'f', 'F', 'd', 'D'].contains c then 1 else 0
  | [] => 0

def isHexPart (c : Char) : Bool :=
  ('0' ≤ c && c ≤ '9') || ('a' ≤ c && c ≤ 'f') || ('A' ≤ c && c ≤ 'F') || c = '_'

def decimalLength (cs : List Char) : Nat :=
  let whole := (cs.takeWhile fun c => Text.isDigit c || c == '_').length
  let mantissa := whole + fractionLength (cs.drop whole)
  mantissa + exponentLength (cs.drop mantissa)

def numberLength (cs : List Char) : Nat :=
  let length := match cs with
    | '0' :: 'x' :: digits => 2 + (digits.takeWhile isHexPart).length
    | '0' :: 'X' :: digits => 2 + (digits.takeWhile isHexPart).length
    | _ => decimalLength cs
  length + suffixLength (cs.drop length)

end ActorDiagram.Literal
