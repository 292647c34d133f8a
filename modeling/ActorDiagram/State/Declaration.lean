import ActorDiagram.State.Types

/-!
State declarations: `case object Name extends StateType`, at top level or inside groups
`object Name { ... }`, whose names qualify the states in them.
-/

namespace ActorDiagram.StateIndex

/-- Group whose body ends with the bracket at `close`. -/
structure Group where
  name : String
  close : Nat
  deriving Repr, DecidableEq

/-- Dotted path of groups, given innermost first; no path when it is empty. -/
def scopeOf (groups : List Group) : Option String :=
  let path := ".".intercalate (groups.reverse.map (·.name))
  if path.isEmpty then none else some path

/-- Head `[case] object Name` or `case class Name` of a declaration. -/
structure DeclHead where
  isCase : Bool
  isObject : Bool
  name : Token
  next : Nat
  deriving Repr, DecidableEq

/-- Head of the declaration that starts at `i`. A class counts only after `case`. -/
def declHead? (s : Stream) (i : Nat) (first : Token) : Option DeclHead :=
  let isCase := first.isWord "case"
  let k := if isCase then i + 1 else i
  match s.get? k, s.get? (k + 1) with
  | some keyword, some name =>
    if keyword.isWordOf ["object", "class"] && name.isIdentifier &&
        (isCase || keyword.text != "class") then
      some ⟨isCase, keyword.text == "object", name, k + 2⟩
    else none
  | _, _ => none

/-- Without state types every case object is a state; else what extends a state type is one. -/
def declaresState (stateTypes : Option (List String)) (head : DeclHead) (supers : List String) :
    Bool :=
  match stateTypes with
  | none => head.isCase && head.isObject
  | some names => names.any supers.contains

def declIn (groups : List Group) (name : Token) : DeclaredState :=
  let scope := scopeOf groups
  ⟨scope, name.text, qualify scope name.text, name.line, name.column⟩

def opensBody (s : Stream) (i : Nat) : Bool :=
  match s.get? i with
  | some t => t.isMark leftBrace
  | none => false

/-- Declarations from the token at `i` on, after those in `decls`. The body of a state is not
entered, the body of any other object is a group. -/
def declsFrom (s : Stream) (stateTypes : Option (List String)) :
    (fuel : Nat) → (i : Nat) → List Group → List DeclaredState → Except Error (List DeclaredState)
  | 0, _, _, decls => .ok decls
  | fuel + 1, i, groups, decls =>
    match s.get? i with
    | none => .ok decls
    | some first =>
      let groups := groups.dropWhile (·.close < i)
      match declHead? s i first with
      | none => declsFrom s stateTypes fuel (i + 1) groups decls
      | some head => do
        let (supers, next) ← s.supertypes head.next
        if declaresState stateTypes head supers then
          let decl := declIn groups head.name
          if decls.any (·.id == decl.id) then
            .error (.source (.duplicateState decl.id)
              (some head.name.line) (some head.name.column))
          else if opensBody s next then
            let close ← s.closer next
            declsFrom s stateTypes fuel (close + 1) groups (decls ++ [decl])
          else declsFrom s stateTypes fuel next groups (decls ++ [decl])
        else if head.isObject && !head.isCase && opensBody s next then
          let close ← s.closer next
          declsFrom s stateTypes fuel next (⟨head.name.text, close⟩ :: groups) decls
        else declsFrom s stateTypes fuel next groups decls

/-- States declared in a stream. Every step of the reading leaves a token behind, so the size of the
stream is `fuel` enough. -/
def ofStream (s : Stream) : Except Error StateIndex := do
  let stateTypes ← StateTypes.ofStream s
  let decls ← declsFrom s stateTypes s.size 0 [] []
  .ok ⟨decls⟩

end ActorDiagram.StateIndex
