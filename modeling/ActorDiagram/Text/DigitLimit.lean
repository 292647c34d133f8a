/-!
Whole numbers are neither read from decimal digits nor written in them beyond a number of digits.
-/

namespace ActorDiagram.Text

/-- Decimal digits that a whole number has at most where it is read or written. -/
def digitLimit : Nat := 4300

/-- A number is not written in decimal digits. -/
def isOverlong (n : Int) : Bool := Nat.pow 10 digitLimit ≤ n.natAbs

/-- Complaint about a number that has this many digits where it is read. -/
def manyDigitsMessage (count : Nat) : String :=
  "Exceeds the limit (" ++ toString digitLimit ++ " digits) for integer string conversion: value has " ++
    toString count ++ " digits; use sys.set_int_max_str_digits() to increase the limit"

/-- Complaint about a number that would be written with too many digits. -/
def overlongMessage : String :=
  "Exceeds the limit (" ++ toString digitLimit ++
    " digits) for integer string conversion; use sys.set_int_max_str_digits() to increase the limit"

end ActorDiagram.Text
