import ActorDiagram.Settings.Basic

/-!
Settings read from the entries of a mapping. What is wrong first is reported: unknown keys, then
direction, theme and title, then `strict`, then the two lists of codes.
-/

namespace ActorDiagram

namespace Value

/-- Number as a ratio. Truth values count as 0 and 1. -/
def ratio? : Value → Option (Int × Nat)
  | .bool b => some (if b then 1 else 0, 1)
  | .int n => some (n, 1)
  | .float (.finite negative significand exponent) =>
    let (num, den) := Text.Binary64.scale 2 significand 1 exponent
    some (if negative then -(num : Int) else num, den)
  | _ => none

def isNumber : Value → Bool
  | .bool _ | .int _ | .float _ => true
  | _ => false

def isInfinite (negative : Bool) : Value → Bool
  | .float (.infinite sign) => sign == negative
  | _ => false

/-- A number below another. What is no number is below none. -/
def isBelow (v w : Value) : Bool :=
  match v, w with
  | .float .nan, _ | _, .float .nan => false
  | .float (.infinite true), w => w.isNumber && !isInfinite true w
  | _, .float (.infinite true) => false
  | .float (.infinite false), _ => false
  | v, .float (.infinite false) => v.isNumber
  | v, w =>
    match v.ratio?, w.ratio? with
    | some (a, b), some (c, d) => a * d < c * b
    | _, _ => false

/-- Keys of mappings are the same if they are the same text, numbers of one value, or the same date
or moment. The number that is none is the same as itself here. -/
def sameKey (v w : Value) : Bool :=
  match v, w with
  | .text s, .text t => s == t
  | .null, .null => true
  | .date d, .date e => d == e
  | .dateTime t, .dateTime u => t.isSame u
  | .float .nan, .float .nan => true
  | .float (.infinite a), .float (.infinite b) => a == b
  | _, _ =>
    match v.ratio?, w.ratio? with
    | some (a, b), some (c, d) => a * d == c * b
    | _, _ => false

def asText? : Value → Option String
  | .text s => some s
  | _ => none

end Value

namespace Settings

def keys : List String := ["direction", "theme", "title", "strict", "ignore", "escalate"]

def isKnownKey (key : Value) : Bool := key.asText?.any keys.contains

def leastOf (v : Value) (vs : List Value) : Value :=
  vs.foldl (fun least w => if w.isBelow least then w else least) v

/-- Complaint about keys that mean nothing. They are put in order, which only keys of one kind
have, and then listed, which only texts can be. -/
def unknownKeysError (key : Value) (rest : List Value) : SettingsError :=
  let all := key :: rest
  if all.all (·.asText?.isSome) then .unknownKeys (Text.sorted (all.filterMap Value.asText?))
  else if all.all (·.isNumber) then .keyType 0 (leastOf key rest).fullTypeName
  else if all.all isDate || all.all isTime then
    if all.any hasOffset && !all.all hasOffset then .zoneOrder else .keyType 0 key.fullTypeName
  else if all.all fun v => isDate v || isTime v then .dateOrder
  else if all.all (isOther key.fullTypeName) then .keyType 0 key.fullTypeName
  else match rest with
    | [] => .keyType 0 key.fullTypeName
    | other :: _ => .keyOrder other.fullTypeName key.fullTypeName
where
  isDate : Value → Bool
    | .date _ => true
    | _ => false
  isTime : Value → Bool
    | .dateTime _ => true
    | _ => false
  hasOffset : Value → Bool
    | .dateTime t => t.offset.isSome
    | _ => false
  isOther (type : String) : Value → Bool
    | .other type' _ _ => type' == type
    | _ => false

def checkKeys (entries : List (Value × Value)) : Except SettingsError Unit :=
  match (entries.map (·.1)).filter (!isKnownKey ·) with
  | [] => .ok ()
  | key :: rest => .error (unknownKeysError key rest)

/-- Trimmed text of a key; `none` if it is absent or null. -/
def text? (entries : List (Value × Value)) (key : String) : Except SettingsError (Option String) :=
  match Value.get? entries key with
  | none | some .null => .ok none
  | some (.text s) =>
    let trimmed := Text.trim s.toList
    if trimmed.isEmpty then .error (.notText key) else .ok (some (String.ofList trimmed))
  | some _ => .error (.notText key)

/-- Items of a value that is a list, or one text. -/
def items? : Value → Option (List Value)
  | .text s => some [.text s]
  | .list items => some items
  | _ => none

/-- Codes of a key. Blank items are left out. -/
def codeList (entries : List (Value × Value)) (key : String) : Except SettingsError (List String) :=
  let value := (Value.get? entries key).getD .null
  match if value.isVoid then some [] else items? value with
  | none => .error (.notCodes key)
  | some items =>
    if items.any Value.isOverlong then .error .overlongNumber
    else match (codesOf items).filter (!Finding.codes.contains ·) with
      | [] => .ok (codesOf items)
      | unknown => .error (.unknownCodes key (Text.sorted unknown))
where
  codesOf (items : List Value) : List String :=
    let names := items.map fun v => String.ofList (Text.trim v.display.toList)
    distinctCodes (names.filter (!·.isEmpty))
  distinctCodes (names : List String) : List String :=
    names.foldr (fun name seen => if seen.contains name then seen else name :: seen) []

/-- Whether warnings fail the command. -/
def strict? (entries : List (Value × Value)) : Except SettingsError Bool :=
  match Value.get? entries "strict" with
  | none => .ok false
  | some (.bool b) => .ok b
  | some _ => .error .notBoolean

def appearanceOf (entries : List (Value × Value)) : Except SettingsError Appearance := do
  let direction ← text? entries "direction"
  let theme ← text? entries "theme"
  let title ← text? entries "title"
  let direction ← direction.mapM fun name => Direction.ofName (Text.toUpperCase name)
  .ok { direction, theme, title := title.getD "FSM diagram" }

def ofEntries (entries : List (Value × Value)) : Except SettingsError Settings := do
  checkKeys entries
  let appearance ← appearanceOf entries
  let strict ← strict? entries
  let ignore ← codeList entries "ignore"
  let escalate ← codeList entries "escalate"
  .ok { appearance, rules := ⟨ignore, escalate⟩, strict }

/-- Issue rules alone. -/
def rulesOf (entries : List (Value × Value)) : Except SettingsError IssueRules := do
  let ignore ← codeList entries "ignore"
  let escalate ← codeList entries "escalate"
  .ok ⟨ignore, escalate⟩

end Settings

end ActorDiagram
