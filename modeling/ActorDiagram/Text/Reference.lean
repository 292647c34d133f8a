import ActorDiagram.Text.DigitLimit
import ActorDiagram.Text.ReferenceNames

/-!
Character references of HTML 5 (`&lt;`, `&#60;`, `&#x3c;`) and the text with them decoded. A decimal
reference may have too many digits to be read; then nothing is decoded, and the failure is the
number of these digits.
-/

namespace ActorDiagram.Text.Reference

/-- What the numbers from 128 to 159 stand for, in order: the characters that Windows-1252 has in
these places. -/
def windowsCodes : List Nat :=
  [8364, 129, 8218, 402, 8222, 8230, 8224, 8225, 710, 8240, 352, 8249, 338, 141, 381, 143,
    144, 8216, 8217, 8220, 8221, 8226, 8211, 8212, 732, 8482, 353, 8250, 339, 157, 382, 376]

/-- A number that stands for nothing: control characters and noncharacters. -/
def standsForNothing (n : Nat) : Bool :=
  (1 ≤ n && n ≤ 8) || n == 11 || (14 ≤ n && n ≤ 31) || n == 127 ||
    (64976 ≤ n && n ≤ 65007) || 65534 ≤ n % 65536

/-- Text of a numeric reference. What is no character becomes the replacement character. -/
def ofNumber (n : Nat) : List Char :=
  if n = 0 then ['\ufffd']
  else if 128 ≤ n && n ≤ 159 then (windowsCodes[n - 128]?).toList.map Char.ofNat
  else if (0xd800 ≤ n && n ≤ 0xdfff) || 0x10ffff < n then ['\ufffd']
  else if standsForNothing n then []
  else [Char.ofNat n]

/-- Value of a digit up to `f`. -/
def digitValue (c : Char) : Nat :=
  if '0' ≤ c && c ≤ '9' then c.toNat - '0'.toNat
  else if 'a' ≤ c && c ≤ 'f' then c.toNat - 'a'.toNat + 10
  else c.toNat - 'A'.toNat + 10

def isHexDigit (c : Char) : Bool :=
  ('0' ≤ c && c ≤ '9') || ('a' ≤ c && c ≤ 'f') || ('A' ≤ c && c ≤ 'F')

def numberOf (base : Nat) (digits : List Char) : Nat :=
  digits.foldl (fun n c => n * base + digitValue c) 0

def semicolonLength : List Char → Nat
  | ';' :: _ => 1
  | _ => 0

/-- Text and length of the digits, and the semicolon, of a numeric reference after `skipped`
characters. Only decimal numbers have a limit. -/
def digits? (base : Nat) (isDigit : Char → Bool) (skipped : Nat) (cs : List Char) :
    Except Nat (Option (List Char × Nat)) :=
  let digits := cs.takeWhile isDigit
  if digits.isEmpty then .ok none
  else if base = 10 ∧ Text.digitLimit < digits.length then .error digits.length
  else .ok (some (ofNumber (numberOf base digits),
    skipped + digits.length + semicolonLength (cs.drop digits.length)))

def codes? (name : String) : Option (List Nat) :=
  match characterNames.find? (·.1 == name) with
  | some (_, code) => some [code]
  | none => (pairNames.find? (·.1 == name)).map fun (_, first, second) => [first, second]

def isNamePart (c : Char) : Bool :=
  !(['\t', '\n', '\x0c', ' ', '<', '&', '#', ';'].contains c)

/-- Text and length of the longest name that needs no semicolon and starts these characters, of at
most `length` characters and at least two. -/
def barePrefix? (cs : List Char) : (length : Nat) → Option (List Char × Nat)
  | 0 => none
  | length + 1 =>
    let name := String.ofList (cs.take (length + 1))
    if length = 0 then none
    else if bareNames.contains name then
      (codes? name).map fun codes => (codes.map Char.ofNat, length + 1)
    else barePrefix? cs length

/-- Text and length of the named reference that starts here. Names have at most 32 characters. -/
def named? (cs : List Char) : Option (List Char × Nat) :=
  let name := (cs.take 32).takeWhile isNamePart
  if semicolonLength (cs.drop name.length) = 1 then
    match codes? (String.ofList name) with
    | some codes => some (codes.map Char.ofNat, name.length + 1)
    | none => barePrefix? name name.length
  else barePrefix? name name.length

/-- Text and length of the reference whose `&` stands before these characters. -/
def after? : List Char → Except Nat (Option (List Char × Nat))
  | '#' :: 'x' :: cs => digits? 16 isHexDigit 2 cs
  | '#' :: 'X' :: cs => digits? 16 isHexDigit 2 cs
  | '#' :: cs => digits? 10 Char.isDigit 1 cs
  | cs => .ok (named? cs)

/-- Text with its references decoded, after leaving out `skip` characters. -/
def decodeFrom : (skip : Nat) → List Char → Except Nat (List Char)
  | _, [] => .ok []
  | skip + 1, _ :: cs => decodeFrom skip cs
  | 0, c :: cs =>
    if c = '&' then
      match after? cs with
      | .ok (some (text, n)) => (decodeFrom n cs).map (text ++ ·)
      | .ok none => (decodeFrom 0 cs).map (c :: ·)
      | .error count => .error count
    else (decodeFrom 0 cs).map (c :: ·)

/-- Text with its references decoded. What is no reference stays as it is. -/
def decode (cs : List Char) : Except Nat (List Char) := decodeFrom 0 cs

theorem decodeFrom_eq_self {cs : List Char} (h : '&' ∉ cs) : decodeFrom 0 cs = .ok cs := by
  induction cs with
  | nil => rfl
  | cons c cs ih =>
    have hc : c ≠ '&' := fun hc => h (by simp [hc])
    have hcs : '&' ∉ cs := fun hcs => h (by simp [hcs])
    simp [decodeFrom, hc, ih hcs, Except.map]

theorem decode_eq_self {cs : List Char} (h : '&' ∉ cs) : decode cs = .ok cs := decodeFrom_eq_self h

end ActorDiagram.Text.Reference
