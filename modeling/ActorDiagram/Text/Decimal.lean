/-!
Binary floating-point numbers of 64 bits as exact values: the nearest one to a decimal, and the
shortest decimal that is nearest to it.
-/

namespace ActorDiagram.Text

/-- Number of the binary64 format. A finite one is `significand * 2 ^ exponent`, with a significand
below `2 ^ 53` and an exponent of at least -1074. -/
inductive Binary64 where
  | finite (negative : Bool) (significand : Nat) (exponent : Int)
  | infinite (negative : Bool)
  | nan
  deriving Repr, DecidableEq

namespace Binary64

/-- Quotient rounded to the nearest whole number, a half to the even neighbour. -/
def roundDiv (num den : Nat) : Nat :=
  let q := num / den
  let r := num % den
  if 2 * r < den then q else if den < 2 * r then q + 1 else if q % 2 = 0 then q else q + 1

/-- Ratio of two numbers times a power, with the power put on the side where it is whole. -/
def scale (base : Nat) (num den : Nat) (exponent : Int) : Nat × Nat :=
  if 0 ≤ exponent then (num * Nat.pow base exponent.toNat, den)
  else (num, den * Nat.pow base (-exponent).toNat)

/-- Least number of 53 binary digits, `2 ^ 52`. -/
def leastNormal : Nat := 4503599627370496

/-- Exponent at which a positive ratio has 53 binary digits before the point, or the least there
is. -/
def exponentFor (num den : Nat) : Int :=
  let guess : Int := (num.log2 : Int) - den.log2 - 52
  let (n, d) := scale 2 num den (-guess)
  max (-1074) (if n < d * leastNormal then guess - 1 else guess)

def ofRatio (negative : Bool) (num den : Nat) : Binary64 :=
  if num = 0 then .finite negative 0 0
  else
    let exponent := exponentFor num den
    let (n, d) := scale 2 num den (-exponent)
    let significand := roundDiv n d
    let (significand, exponent) :=
      if significand = 2 * leastNormal then (leastNormal, exponent + 1)
      else (significand, exponent)
    if 971 < exponent then .infinite negative else .finite negative significand exponent

/-- Nearest number to `digits * 10 ^ exponent`. Far outside the range of the format, zero or
infinity. -/
def ofDecimal (negative : Bool) (digits : Nat) (exponent : Int) : Binary64 :=
  let size : Int := (Nat.toDigits 10 digits).length
  if digits = 0 || size + exponent < -400 then .finite negative 0 0
  else if 400 < size + exponent then .infinite negative
  else
    let (num, den) := scale 10 digits 1 exponent
    ofRatio negative num den

/-- Magnitude of a number with a whole number added to it, rounded. The sign stays. -/
def addNat (n : Nat) : Binary64 → Binary64
  | .finite negative significand exponent =>
    let (num, den) := scale 2 significand 1 exponent
    ofRatio negative (num + n * den) den
  | x => x

def isZero : Binary64 → Bool
  | .finite _ significand _ => significand == 0
  | _ => false

/-- Ends of the interval of reals that round to a positive number, in units of `2 ^ (exponent - 2)`.
Below a power of two the grid is finer. -/
def interval (significand : Nat) (exponent : Int) : Nat × Nat :=
  if significand = leastNormal ∧ -1074 < exponent then (4 * significand - 1, 4 * significand + 2)
  else (4 * significand - 2, 4 * significand + 2)

/-- Least power of ten above a positive ratio, from a guess that is at most the answer. -/
def powerAbove (num den : Nat) : (fuel : Nat) → (guess : Int) → Int
  | 0, guess => guess
  | fuel + 1, guess =>
    let (n, d) := scale 10 num den (-guess)
    if n < d then guess else powerAbove num den fuel (guess + 1)

/-- Decimal `digits * 10 ^ exponent` with `exponent = power - count` that lies nearest to a positive
number among those of this exponent that round to it. -/
def candidate? (significand : Nat) (exponent : Int) (power : Int) (count : Nat) :
    Option (Nat × Int) :=
  let (low, high) := interval significand exponent
  let grid := power - count
  -- a unit of the interval is `n / d` units of the grid
  let (n, d) := scale 2 1 1 (exponent - 2)
  let (n, d) := scale 10 n d (-grid)
  let below := 4 * significand * n / d
  let fits (digits : Nat) : Bool :=
    if significand % 2 = 0 then low * n ≤ digits * d && digits * d ≤ high * n
    else low * n < digits * d && digits * d < high * n
  let nearest := roundDiv (4 * significand * n) d
  if fits nearest then some (nearest, grid)
  else if fits below then some (below, grid)
  else if fits (below + 1) then some (below + 1, grid)
  else none

/-- Shortest decimal that rounds to a positive number. Seventeen digits are always enough. -/
def shortest (significand : Nat) (exponent : Int) : Nat × Int :=
  let (num, den) := scale 2 significand 1 exponent
  let guess : Int := ((num.log2 : Int) - den.log2) * 3 / 10 - 5
  let power := powerAbove num den 120 guess
  ((List.range 17).findSome? fun i => candidate? significand exponent power (i + 1)).getD
    (significand, 0)

def padRight (width : Nat) (digits : List Char) : List Char :=
  digits ++ List.replicate (width - digits.length) '0'

/-- Exponent as it is written: a sign and at least two digits. -/
def exponentText (e : Int) : List Char :=
  let digits := Nat.toDigits 10 e.natAbs
  'e' :: (if e < 0 then '-' else '+') :: (if digits.length < 2 then '0' :: digits else digits)

/-- Digits with the point after the first `point` of them: plain from 0.0001 up to below
10000000000000000, with an exponent outside. A plain number has a point. -/
def layout (digits : List Char) (point : Int) : List Char :=
  if -4 < point && point ≤ 0 then
    ['0', '.'] ++ List.replicate (-point).toNat '0' ++ digits
  else if 0 < point && point ≤ 16 then
    let whole := padRight point.toNat (digits.take point.toNat)
    let rest := digits.drop point.toNat
    whole ++ '.' :: (if rest.isEmpty then ['0'] else rest)
  else
    let mantissa := match digits with
      | d :: e :: rest => d :: '.' :: e :: rest
      | _ => digits
    mantissa ++ exponentText (point - 1)

/-- Shortest text that reads back as the number. -/
def text : Binary64 → List Char
  | .nan => ['n', 'a', 'n']
  | .infinite negative => (if negative then ['-'] else []) ++ ['i', 'n', 'f']
  | .finite negative significand exponent =>
    let magnitude :=
      if significand = 0 then ['0', '.', '0']
      else
        let (number, grid) := shortest significand exponent
        let all := Nat.toDigits 10 number
        let digits := (all.reverse.dropWhile (· == '0')).reverse
        layout digits (all.length + grid)
    (if negative then ['-'] else []) ++ magnitude

end Binary64

end ActorDiagram.Text
