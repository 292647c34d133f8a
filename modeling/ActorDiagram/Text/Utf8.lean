/-!
Text from UTF-8 bytes. A byte that fits nowhere is reported with the bytes before it that belong to
the same character.
-/

namespace ActorDiagram.Text.Utf8

inductive Fault where
  | invalidStart
  | invalidContinuation
  | unexpectedEnd
  deriving Repr, DecidableEq

def Fault.message : Fault → String
  | .invalidStart => "invalid start byte"
  | .invalidContinuation => "invalid continuation byte"
  | .unexpectedEnd => "unexpected end of data"

/-- Bytes that are no text: the index of the first, their number and its value. -/
structure DecodeError where
  start : Nat
  count : Nat
  byte : Nat
  fault : Fault
  deriving Repr, DecidableEq

def hexByte (n : Nat) : String :=
  String.ofList ((Nat.toDigits 16 (n / 16 % 16)) ++ Nat.toDigits 16 (n % 16))

def DecodeError.message (e : DecodeError) : String :=
  let place :=
    if e.count = 1 then "byte 0x" ++ hexByte e.byte ++ " in position " ++ toString e.start
    else "bytes in position " ++ toString e.start ++ "-" ++ toString (e.start + e.count - 1)
  "'utf-8' codec can't decode " ++ place ++ ": " ++ e.fault.message

/-- One character and the number of its bytes, or a fault and the number of bytes at fault. -/
abbrev Step := Except (Fault × Nat) (Char × Nat)

def isTail (b : Nat) : Bool := 0x80 ≤ b && b < 0xc0

/-- Character of these bytes: the low bits of the first, and six bits of each other. -/
def assemble (first mask : Nat) (tail : List Nat) : Char :=
  Char.ofNat (tail.foldl (fun n b => n * 64 + b % 64) (first % mask))

/-- Continuation bytes of a character, `count` of them after the first byte. The second byte is at
least `low` and at most `high`. -/
def continuation (count low high : Nat) (bytes : List Nat) : Except (Fault × Nat) (List Nat) :=
  match bytes with
  | [] => .error (.unexpectedEnd, 1)
  | b :: rest =>
    if b < low || high < b then .error (.invalidContinuation, 1)
    else
      let tail := (rest.take (count - 1)).takeWhile isTail
      if tail.length = count - 1 then .ok (b :: tail)
      else if tail.length = rest.length then .error (.unexpectedEnd, 2 + tail.length)
      else .error (.invalidContinuation, 2 + tail.length)

/-- First character of some bytes. Overlong forms, surrogates and values beyond the last code point
are refused at the second byte. -/
def first (b : Nat) (rest : List Nat) : Step :=
  if b < 0x80 then .ok (Char.ofNat b, 1)
  else if b < 0xc2 then .error (.invalidStart, 1)
  else if b < 0xe0 then
    (continuation 1 0x80 0xbf rest).map fun tail => (assemble b 0x20 tail, 2)
  else if b < 0xf0 then
    let low := if b = 0xe0 then 0xa0 else 0x80
    let high := if b = 0xed then 0x9f else 0xbf
    (continuation 2 low high rest).map fun tail => (assemble b 0x10 tail, 3)
  else if b < 0xf5 then
    let low := if b = 0xf0 then 0x90 else 0x80
    let high := if b = 0xf4 then 0x8f else 0xbf
    (continuation 3 low high rest).map fun tail => (assemble b 0x08 tail, 4)
  else .error (.invalidStart, 1)

/-- Characters of some bytes, the first of which is at index `start`. -/
def decodeFrom : (fuel start : Nat) → List Nat → Except DecodeError (List Char)
  | _, _, [] => .ok []
  | 0, _, _ => .ok []
  | fuel + 1, start, b :: rest =>
    match first b rest with
    | .error (fault, count) => .error ⟨start, count, b, fault⟩
    | .ok (c, n) => (decodeFrom fuel (start + n) (rest.drop (n - 1))).map (c :: ·)

def decode (bytes : List Nat) : Except DecodeError (List Char) := decodeFrom bytes.length 0 bytes

/-- Bytes that may stand at the start of a file and mark it as UTF-8. -/
def signature : List Nat := [0xef, 0xbb, 0xbf]

/-- Text of some bytes without their signature. The start of a signature alone is no text. -/
def decodeSigned (bytes : List Nat) : Except DecodeError (List Char) :=
  if bytes.length < 3 && bytes.isPrefixOf signature then .ok []
  else if signature.isPrefixOf bytes then decode (bytes.drop 3)
  else decode bytes

/-- Every line break as one newline. -/
def normalizeNewlines : List Char → List Char
  | '\r' :: '\n' :: cs => '\n' :: normalizeNewlines cs
  | '\r' :: cs => '\n' :: normalizeNewlines cs
  | c :: cs => c :: normalizeNewlines cs
  | [] => []

end ActorDiagram.Text.Utf8
