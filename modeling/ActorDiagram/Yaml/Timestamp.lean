import ActorDiagram.Settings.Date
import ActorDiagram.Text.Reference
import ActorDiagram.Yaml.Token

/-!
Dates and times as YAML writes them: `2001-12-14`, or `2001-12-14 21:59:43.10 -5` with one or two
digits for month, day, hour and the hours of the offset.
-/

namespace ActorDiagram.Yaml

/-- Offset from universal time as it is written. -/
structure Offset where
  negative : Bool
  hours : Nat
  minutes : Nat
  deriving Repr, DecidableEq

/-- Time of day as it is written, with the digits after the point. -/
structure Clock where
  hour : Nat
  minute : Nat
  second : Nat
  fraction : List Char
  offset : Option Offset
  deriving Repr, DecidableEq

/-- Date and time as they are written. -/
structure Timestamp where
  year : Nat
  month : Nat
  day : Nat
  clock : Option Clock
  deriving Repr, DecidableEq

namespace Timestamp

/-- One digit, or two if two stand there. -/
def shortNumber : List Char → Option (Nat × List Char)
  | c :: d :: cs =>
    if c.isDigit && d.isDigit then some (Text.Reference.numberOf 10 [c, d], cs)
    else if c.isDigit then some (Text.Reference.numberOf 10 [c], d :: cs)
    else none
  | [c] => if c.isDigit then some (Text.Reference.numberOf 10 [c], []) else none
  | [] => none

def fixedNumber (width : Nat) (cs : List Char) : Option (Nat × List Char) :=
  let digits := cs.take width
  if digits.length = width && digits.all Char.isDigit then
    some (Text.Reference.numberOf 10 digits, cs.drop width)
  else none

def after (c : Char) : List Char → Option (List Char)
  | d :: cs => if d = c then some cs else none
  | [] => none

def isBlank (c : Char) : Bool := c = ' ' || c = '\t'

/-- Offset at the end, after blanks; `Z` is universal time. -/
def offset? (cs : List Char) : Option (Option Offset) :=
  match cs, cs.dropWhile isBlank with
  | [], _ => some none
  | _, ['Z'] => some (some ⟨false, 0, 0⟩)
  | _, sign :: cs =>
    if sign = '+' || sign = '-' then
      match shortNumber cs with
      | some (hours, []) => some (some ⟨sign = '-', hours, 0⟩)
      | some (hours, ':' :: cs) =>
        match fixedNumber 2 cs with
        | some (minutes, []) => some (some ⟨sign = '-', hours, minutes⟩)
        | _ => none
      | _ => none
    else none
  | _, [] => none

def clock? (cs : List Char) : Option Clock := do
  let (hour, cs) ← shortNumber cs
  let (minute, cs) ← after ':' cs >>= fixedNumber 2
  let (second, cs) ← after ':' cs >>= fixedNumber 2
  let (fraction, cs) := match cs with
    | '.' :: cs => (cs.takeWhile Char.isDigit, cs.dropWhile Char.isDigit)
    | cs => ([], cs)
  let offset ← offset? cs
  some ⟨hour, minute, second, fraction, offset⟩

/-- Time of day after a date, if there is more than the date: after blanks or a `T`. -/
def clockAfter? : List Char → Option (Option Clock)
  | [] => some none
  | c :: cs =>
    if c = 'T' || c = 't' then (clock? cs).map some
    else if isBlank c then (clock? (cs.dropWhile isBlank)).map some
    else none

/-- Date or time that a text writes. A date alone has two digits for month and day. -/
def parse? (cs : List Char) : Option Timestamp := do
  let (year, rest) ← fixedNumber 4 cs
  let (month, rest) ← after '-' rest >>= shortNumber
  let (day, rest) ← after '-' rest >>= shortNumber
  let clock ← clockAfter? rest
  if clock.isNone && cs.length ≠ 10 then none else some ⟨year, month, day, clock⟩

def date (t : Timestamp) : Except DateFault Date :=
  if t.year = 0 then .error (.year t.year)
  else if t.month = 0 || 12 < t.month then .error .month
  else if t.day = 0 || Date.daysIn t.year t.month < t.day then .error .day
  else .ok ⟨t.year, t.month, t.day⟩

/-- Minutes of an offset, which is less than a day. -/
def offsetMinutes (o : Offset) : Except DateFault Int :=
  let minutes : Int := o.hours * 60 + o.minutes
  let minutes := if o.negative then -minutes else minutes
  if 1440 ≤ minutes.natAbs then .error (.offset (spanText minutes)) else .ok minutes

/-- Six digits of a fraction. -/
def microseconds (digits : List Char) : Nat :=
  let kept := digits.take 6
  Text.Reference.numberOf 10 (kept ++ List.replicate (6 - kept.length) '0')

/-- Time that a date and a time of day name. The offset is looked at first. -/
def dateTime (t : Timestamp) (c : Clock) : Except DateFault DateTime := do
  let offset ← c.offset.mapM offsetMinutes
  let date ← t.date
  if 23 < c.hour then .error .hour
  else if 59 < c.minute then .error .minute
  else if 59 < c.second then .error .second
  else .ok ⟨date, c.hour, c.minute, c.second, microseconds c.fraction, offset⟩

end Timestamp

end ActorDiagram.Yaml
