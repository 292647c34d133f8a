import ActorDiagram.CommandLine.Run
import ActorDiagram.Yaml.Document

/-!
The command as a program. It takes a picture of the files that the options name, runs the command on
it, and carries out what has changed.
-/

namespace ActorDiagram.Main

def probe (path : Path) : IO (Option FileNode) := do
  if path.hasNull || path.isTooLong || path.names.any (255 < ·.utf8ByteSize) then return none
  if path = Path.ofText "/dev/null" then return some .nullDevice
  try
    let bytes ← IO.FS.readBinFile path.text
    return some (.file (bytes.toList.map UInt8.toNat))
  catch
    | .noFileOrDirectory _ _ _ => return none
    | .inappropriateType _ _ _ => return some .directory
    | e => throw e

/-- Adds what stands at a path and above it, as far as there is something. -/
def addPath (tree : FileTree) (root : String) (place : List String) :
    (done todo : List String) → IO FileTree
  | _, [] => return tree
  | done, name :: todo => do
    let path : Path := ⟨root, done ++ [name]⟩
    let place := if name = ".." then FileTree.above place else place ++ [name]
    match ← probe path with
    | none => return tree
    | some node => addPath (tree.put place node) root place (done ++ [name]) todo

/-- Files and directories that the options name. -/
def picture (o : Options) : IO FileTree :=
  (o.config.path?.toList ++ o.source.toList ++ o.out.path?.toList).foldlM
    (fun tree p => addPath tree p.root (FileTree.startOf p) [] p.names) ⟨[]⟩

/-- Bytes of a stream, after those that have been read. -/
partial def readAll (input : IO.FS.Stream) (bytes : ByteArray) : IO ByteArray := do
  let more ← input.read 65536
  if more.isEmpty then return bytes else readAll input (bytes ++ more)

def readStdin (o : Options) : IO String := do
  if (o.source.map Path.text).getD "-" != "-" then return ""
  let bytes ← readAll (← IO.getStdin) ByteArray.empty
  match String.fromUTF8? bytes with
  | some text => return text
  | none => throw (IO.userError "standard input is no UTF-8 text")

def placeText : List String → String
  | "/" :: names => "/" ++ "/".intercalate names
  | names => "/".intercalate names

/-- Writes what is not in the tree before. -/
def carryOut (before after : FileTree) : IO Unit :=
  (after.nodes.filter (!before.nodes.contains ·)).forM fun (place, node) =>
    match node with
    | .directory => IO.FS.createDirAll (placeText place)
    | .nullDevice => return
    | .file bytes => IO.FS.writeBinFile (placeText place) ⟨(bytes.map UInt8.ofNat).toArray⟩

def failureMessage : Command.Failure → String
  | .crash _ message => message
  | .drawing e => e.message
  | .write e => Command.writeMessage e

def run (arguments : List String) : IO UInt32 := do
  let o := match Options.ofArguments arguments with
    | .ok (some o) => o
    | _ => { source := some (Path.ofText "") }
  let tree ← picture o
  let stdin ← readStdin o
  match Command.run Yaml.reader tree stdin arguments with
  | .ok outcome => do
    carryOut tree outcome.tree
    IO.print outcome.stdout
    IO.eprint outcome.stderr
    return UInt32.ofNat outcome.exitCode
  | .error e => do
    IO.eprintln (failureMessage e)
    return 1

end ActorDiagram.Main

def main (arguments : List String) : IO UInt32 := ActorDiagram.Main.run arguments
