import ActorDiagram.Text.LowerCase

/-!
Paths, and trees of files that a command reads and writes.
-/

namespace ActorDiagram

/-- Path in normal form: the slashes in front, and the names, of which none is empty or a dot. -/
structure Path where
  root : String
  names : List String
  deriving Repr, DecidableEq

namespace Path

def splitSlashes : List Char → List (List Char)
  | [] => [[]]
  | c :: cs =>
    match splitSlashes cs with
    | [] => [[c]]
    | part :: parts => if c = '/' then [] :: part :: parts else (c :: part) :: parts

/-- Slashes in front of a path: none, one, or exactly two. -/
def rootOf (cs : List Char) : String :=
  match (cs.takeWhile (· == '/')).length with
  | 0 => ""
  | 2 => "//"
  | _ => "/"

def ofText (text : String) : Path :=
  ⟨rootOf text.toList,
    ((splitSlashes text.toList).filter fun part => !part.isEmpty && part != ['.']).map
      String.ofList⟩

/-- Text of a path. The path without names is a dot. -/
def text (p : Path) : String :=
  if p.root.isEmpty && p.names.isEmpty then "." else p.root ++ "/".intercalate p.names

/-- The path holds a null character, which no name of a file does. -/
def hasNull (p : Path) : Bool := p.names.any (·.toList.contains '\x00')

/-- The path is longer than the system takes: 4095 bytes. -/
def isTooLong (p : Path) : Bool := 4095 < p.text.utf8ByteSize

def parent (p : Path) : Path := ⟨p.root, p.names.dropLast⟩

/-- Ending of the last name from its last dot on. A dot at the start or the end of the name makes no
ending. -/
def ending (p : Path) : String :=
  match p.names.getLast? with
  | none => ""
  | some name =>
    let tail := name.toList.reverse.takeWhile (· != '.')
    if tail.isEmpty || name.length ≤ tail.length + 1 then ""
    else String.ofList ('.' :: tail.reverse)

end Path

/-- What stands at a place of a file tree. -/
inductive FileNode where
  | directory
  | file (bytes : List Nat)
  /-- What is written there is lost, and nothing is read there. -/
  | nullDevice
  deriving Repr, DecidableEq

/-- Files and directories by their places. A place is the list of names that lead to it from the
working directory or the root. The working directory, those above it and the root are there without
a node. -/
structure FileTree where
  nodes : List (List String × FileNode)
  deriving Repr, DecidableEq

namespace FileTree

/-- Where the names of a path lead. -/
inductive Found where
  | missing
  | tooLong
  /-- A file stands where a directory is needed. -/
  | blocked
  | directory (place : List String)
  | file (place : List String) (bytes : List Nat)
  | nullDevice
  deriving Repr, DecidableEq

/-- The working directory, or one above it. -/
def isAncestor (place : List String) : Bool := place.all (· == "..")

def nodeAt? (tree : FileTree) (place : List String) : Option FileNode :=
  if isAncestor place || place == ["/"] then some .directory
  else (tree.nodes.find? (·.1 == place)).map (·.2)

/-- Place above another. There is none above the root. -/
def above (place : List String) : List String :=
  if isAncestor place then place ++ [".."]
  else if place = ["/"] then place
  else place.dropLast

/-- One name further. A name has 255 bytes at most. -/
def enter (tree : FileTree) (found : Found) (name : String) : Found :=
  match found with
  | .directory place =>
    let place := if name = ".." then above place else place ++ [name]
    if 255 < name.utf8ByteSize then .tooLong
    else match tree.nodeAt? place with
      | none => .missing
      | some .directory => .directory place
      | some (.file bytes) => .file place bytes
      | some .nullDevice => .nullDevice
  | .file _ _ | .nullDevice => .blocked
  | found => found

def startOf (p : Path) : List String := if p.root.isEmpty then [] else ["/"]

def find (tree : FileTree) (p : Path) : Found :=
  if p.hasNull then .missing
  else if p.isTooLong then .tooLong
  else p.names.foldl tree.enter (.directory (startOf p))

def put (tree : FileTree) (place : List String) (node : FileNode) : FileTree :=
  ⟨tree.nodes.filter (·.1 != place) ++ [(place, node)]⟩

inductive WriteError where
  | fileExists (path : String)
  | notDirectory (path : String)
  | isDirectory (path : String)
  | tooLong (path : String)
  | nullCharacter
  deriving Repr, DecidableEq

/-- Makes the directory `name` in the directory that `names` lead to. -/
def makeIn (tree : FileTree) (root : String) (names : List String) (name : String) :
    Except WriteError FileTree :=
  let path : Path := ⟨root, names ++ [name]⟩
  match tree.find path, tree.find ⟨root, names⟩ with
  | .directory _, _ => .ok tree
  | .file _ _, _ | .nullDevice, _ => .error (.fileExists path.text)
  | .tooLong, _ => .error (.tooLong path.text)
  | .missing, .directory place => .ok (tree.put (place ++ [name]) .directory)
  | _, _ => .error (.notDirectory path.text)

/-- Makes the directories that a path names; its names are given last one first. What is missing
above a directory is made before it. -/
def makeDirectories (tree : FileTree) (root : String) : List String → Except WriteError FileTree
  | [] => .ok tree
  | name :: above =>
    match tree.find ⟨root, above.reverse⟩ with
    | .missing => do
      let tree ← makeDirectories tree root above
      tree.makeIn root above.reverse name
    | _ => tree.makeIn root above.reverse name

/-- Writes a file into a directory that is there. -/
def writeFile (tree : FileTree) (p : Path) (bytes : List Nat) : Except WriteError FileTree :=
  match tree.find p, tree.find p.parent, p.names.getLast? with
  | .file place _, _, _ => .ok (tree.put place (.file bytes))
  | .nullDevice, _, _ => .ok tree
  | .tooLong, _, _ => .error (.tooLong p.text)
  | .missing, .directory place, some name => .ok (tree.put (place ++ [name]) (.file bytes))
  | .directory _, _, _ => .error (.isDirectory p.text)
  | _, _, _ => .error (.notDirectory p.text)

/-- Writes a file and the directories above it. -/
def write (tree : FileTree) (p : Path) (bytes : List Nat) : Except WriteError FileTree :=
  if p.parent.hasNull then .error .nullCharacter
  else do
    let tree ← tree.makeDirectories p.root p.parent.names.reverse
    if p.hasNull then .error .nullCharacter else tree.writeFile p bytes

end FileTree

end ActorDiagram
