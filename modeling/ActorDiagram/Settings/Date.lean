import ActorDiagram.Text.Decimal

/-!
Calendar dates and times of day as they stand in configuration data.
-/

namespace ActorDiagram

/-- Day of the Gregorian calendar. -/
structure Date where
  year : Nat
  month : Nat
  day : Nat
  deriving Repr, DecidableEq

/-- Day and time of day. The offset is in minutes east of universal time, where one is given. -/
structure DateTime where
  date : Date
  hour : Nat
  minute : Nat
  second : Nat
  microsecond : Nat
  offset : Option Int
  deriving Repr, DecidableEq

/-- Number in decimal digits, with zeros in front up to this width. -/
def padded (width n : Nat) : String :=
  let digits := Nat.toDigits 10 n
  String.ofList (List.replicate (width - digits.length) '0' ++ digits)

/-- Span of time in days and seconds, of which only the days are negative. -/
def spanText (minutes : Int) : String :=
  let days := Int.fdiv minutes 1440
  let seconds := Int.fmod minutes 1440 * 60
  "datetime.timedelta(" ++
    (if days = 0 then "seconds=" ++ toString seconds
    else if seconds = 0 then "days=" ++ toString days
    else "days=" ++ toString days ++ ", seconds=" ++ toString seconds) ++ ")"

namespace Date

def isLeapYear (year : Nat) : Bool := year % 4 == 0 && (year % 100 != 0 || year % 400 == 0)

def daysIn (year month : Nat) : Nat :=
  if month = 2 then (if isLeapYear year then 29 else 28)
  else if [4, 6, 9, 11].contains month then 30
  else 31

/-- Days up to this one, from the first day of the year 1 on. -/
def ordinal (d : Date) : Nat :=
  let past := d.year - 1
  let before := 365 * past + past / 4 - past / 100 + past / 400
  (List.range' 1 (d.month - 1)).foldl (fun days month => days + daysIn d.year month) before + d.day

def text (d : Date) : String :=
  padded 4 d.year ++ "-" ++ padded 2 d.month ++ "-" ++ padded 2 d.day

def numbers (d : Date) : List String := [d.year, d.month, d.day].map toString

end Date

namespace DateTime

/-- Microseconds since the first day of the year 1, in universal time if an offset is given. -/
def instant (t : DateTime) : Int :=
  ((((t.date.ordinal * 24 + t.hour) * 60 + t.minute : Nat) - t.offset.getD 0) * 60 + t.second) *
    1000000 + t.microsecond

/-- Times name one moment. A time without offset is never that of one with an offset. -/
def isSame (t u : DateTime) : Bool :=
  t.offset.isSome == u.offset.isSome && t.instant == u.instant

def offsetText (minutes : Int) : String :=
  (if minutes < 0 then "-" else "+") ++ padded 2 (minutes.natAbs / 60) ++ ":" ++
    padded 2 (minutes.natAbs % 60)

/-- Date and time with a space between them. Parts of a second are shown when there are some. -/
def text (t : DateTime) : String :=
  t.date.text ++ " " ++ padded 2 t.hour ++ ":" ++ padded 2 t.minute ++ ":" ++ padded 2 t.second ++
    (if t.microsecond = 0 then "" else "." ++ padded 6 t.microsecond) ++
    (t.offset.map offsetText).getD ""

def zoneText (minutes : Int) : String :=
  if minutes = 0 then "datetime.timezone.utc"
  else "datetime.timezone(" ++ spanText minutes ++ ")"

/-- Numbers of a time. Seconds and their parts are left out from the end while they are 0. -/
def numbers (t : DateTime) : List String :=
  t.date.numbers ++ [toString t.hour, toString t.minute] ++
    (if t.second = 0 ∧ t.microsecond = 0 then [] else [toString t.second]) ++
    (if t.microsecond = 0 then [] else [toString t.microsecond])

end DateTime

end ActorDiagram
