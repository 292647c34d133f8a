import ActorDiagram.Text.Decimal
import ActorDiagram.Text.Reference
import ActorDiagram.Yaml.Token

/-!
Numbers as YAML 1.1 writes them: whole numbers in five bases, and floating-point numbers. A digit
may be followed by underscores, which count for nothing.
-/

namespace ActorDiagram.Yaml.Number

/-- A number without its sign, and whether it is negative. -/
def splitSign : List Char → Bool × List Char
  | '-' :: cs => (true, cs)
  | '+' :: cs => (false, cs)
  | cs => (false, cs)

def withoutUnderscores (cs : List Char) : List Char := cs.filter (· != '_')

def isDigitOrUnderscore (c : Char) : Bool := c.isDigit || c == '_'

/-- A digit, and then digits and underscores. -/
def isDigits (cs : List Char) : Bool := cs.head?.any Char.isDigit && cs.all isDigitOrUnderscore

def splitColons : List Char → List (List Char)
  | [] => [[]]
  | c :: cs =>
    match splitColons cs with
    | [] => [[c]]
    | part :: parts => if c = ':' then [] :: part :: parts else (c :: part) :: parts

/-- Part of a number in base 60, after the first: one or two digits below 60. -/
def isSixtieth : List Char → Bool
  | [d] => d.isDigit
  | [t, d] => '0' ≤ t && t ≤ '5' && d.isDigit
  | _ => false

/-- Not empty, and of these characters and underscores. -/
def isRun (p : Char → Bool) (cs : List Char) : Bool :=
  !cs.isEmpty && cs.all fun c => p c || c == '_'

def isWhole (cs : List Char) : Bool :=
  match (splitSign cs).2 with
  | '0' :: 'b' :: ds => isRun (fun c => c == '0' || c == '1') ds
  | '0' :: 'x' :: ds => isRun Text.Reference.isHexDigit ds
  | '0' :: ds => ds.isEmpty || isRun (fun c => '0' ≤ c && c ≤ '7') ds
  | ds =>
    match splitColons ds with
    | first :: rest => isDigits first && rest.all isSixtieth
    | [] => false

def isExponent : List Char → Bool
  | [] => true
  | e :: sign :: ds =>
    (e = 'e' || e = 'E') && (sign = '+' || sign = '-') && !ds.isEmpty && ds.all Char.isDigit
  | _ => false

/-- Number with a point, without its sign: digits around the point and an exponent, or parts in base
60 before the point. -/
def isPointed (cs : List Char) : Bool :=
  let whole := cs.takeWhile (· != '.')
  let after := cs.drop (whole.length + 1)
  let rest := after.dropWhile isDigitOrUnderscore
  whole.length < cs.length && (match splitColons whole with
    | [ds] => (isDigits ds || (ds.isEmpty && after.head?.any Char.isDigit)) && isExponent rest
    | first :: parts => isDigits first && parts.all isSixtieth && rest.isEmpty
    | [] => false)

/-- A plain scalar is a floating-point number. A point in front takes no sign, nor does a number
that is none. -/
def isFloat (cs : List Char) : Bool :=
  let (_, magnitude) := splitSign cs
  if [".inf", ".Inf", ".INF"].contains (String.ofList magnitude) then true
  else if [".nan", ".NaN", ".NAN"].contains (String.ofList cs) then true
  else if magnitude.head? == some '.' && magnitude.length < cs.length then false
  else isPointed magnitude

/-- Number of these digits in a base. Decimal numbers with too many digits are not read. -/
def inBase (base : Nat) (isDigit : Char → Bool) (ds : List Char) : Except Fault Nat :=
  if ds.isEmpty || !ds.all isDigit then .error (.wholeNumber base (String.ofList ds))
  else if base = 10 && Text.digitLimit < ds.length then .error (.manyDigits ds.length)
  else .ok (Text.Reference.numberOf base ds)

/-- Whole number without its sign: binary after `0b`, hexadecimal after `0x`, octal after `0`,
decimal, or in base 60 with colons. -/
def natural (cs : List Char) : Except Fault Nat :=
  match cs with
  | ['0'] => .ok 0
  | '0' :: 'b' :: ds => inBase 2 (fun c => c == '0' || c == '1') ds
  | '0' :: 'x' :: ds => inBase 16 Text.Reference.isHexDigit ds
  | '0' :: _ => inBase 8 (fun c => '0' ≤ c && c ≤ '7') cs
  | _ => (splitColons cs).foldlM
    (fun n part => (inBase 10 Char.isDigit part).map (n * 60 + ·)) 0

def whole (cs : List Char) : Except Fault Int :=
  let (negative, magnitude) := splitSign (withoutUnderscores cs)
  if magnitude.isEmpty then .error .noNumber
  else (natural magnitude).map fun n => if negative then -(n : Int) else n

/-- Value of an exponent, if it is one. Here the sign may be left out. -/
def exponent? : List Char → Option Int
  | [] => some 0
  | e :: cs =>
    let (negative, ds) := splitSign cs
    if (e = 'e' || e = 'E') && !ds.isEmpty && ds.all Char.isDigit then
      let n : Int := Text.Reference.numberOf 10 ds
      some (if negative then -n else n)
    else none

/-- Decimal with or without a point and an exponent. -/
def decimal? (negative : Bool) (cs : List Char) : Option Text.Binary64 :=
  let whole := cs.takeWhile Char.isDigit
  let rest := cs.drop whole.length
  let (fraction, rest) := match rest with
    | '.' :: rest => (rest.takeWhile Char.isDigit, rest.dropWhile Char.isDigit)
    | rest => ([], rest)
  if whole.isEmpty && fraction.isEmpty then none
  else (exponent? rest).map fun e =>
    Text.Binary64.ofDecimal negative (Text.Reference.numberOf 10 (whole ++ fraction))
      (e - fraction.length)

/-- Number in base 60, its parts given last first. The last part is rounded with its fraction, and
the others are added one by one. -/
def sexagesimal? (negative : Bool) : List (List Char) → Option Text.Binary64
  | [] => none
  | last :: parts =>
    if parts.all fun part => !part.isEmpty && part.all Char.isDigit then
      (decimal? negative last).map fun x => (parts.zipIdx 1).foldl
        (fun x (part, place) => x.addNat (Text.Reference.numberOf 10 part * Nat.pow 60 place)) x
    else none

def float (cs : List Char) : Except Fault Text.Binary64 :=
  let (negative, magnitude) := splitSign (withoutUnderscores cs)
  let word := magnitude.map Char.toLower
  if (withoutUnderscores cs).isEmpty then .error .noNumber
  else if word = ['.', 'i', 'n', 'f'] then .ok (.infinite negative)
  else if word = ['.', 'n', 'a', 'n'] then .ok .nan
  else
    let parts := splitColons magnitude
    match if parts.length = 1 then decimal? negative magnitude
      else sexagesimal? negative parts.reverse with
    | some x => .ok x
    | none => .error (.floatNumber (String.ofList word))

end ActorDiagram.Yaml.Number
