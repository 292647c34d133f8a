import ActorDiagram.Drawing
import ActorDiagram.CommandLine.Help
import ActorDiagram.CommandLine.Options
import ActorDiagram.Settings.Reader
import ActorDiagram.Text.Utf8

/-!
The command: it reads settings and source from a tree of files and standard input, and writes the
diagram to standard output or into the tree. How the text of the settings is read is left open: the
first argument of each function that reads settings is the reader.
-/

namespace ActorDiagram.Command

/-- What the command leaves: exit code, output, messages and files. -/
structure Outcome where
  exitCode : Nat
  stdout : String
  stderr : String
  tree : FileTree
  deriving Repr, DecidableEq

/-- Failure that is no outcome of the command. -/
inductive Failure where
  /-- The command broke off while it read its inputs, or before it wrote a file. -/
  | crash (kind message : String)
  | drawing (e : Error)
  | write (e : FileTree.WriteError)
  deriving Repr, DecidableEq

/-- What happens where a file is asked of an option that names none. -/
def voidFileCrash (property : String) : String × String :=
  ("AttributeError", "'list' object has no attribute " ++ Text.quoted property)

def tooLongMessage (path : String) : String :=
  "[Errno 36] File name too long: " ++ Text.quoted path

def writeMessage : FileTree.WriteError → String
  | .fileExists path => "[Errno 17] File exists: " ++ Text.quoted path
  | .notDirectory path => "[Errno 20] Not a directory: " ++ Text.quoted path
  | .isDirectory path => "[Errno 21] Is a directory: " ++ Text.quoted path
  | .tooLong path => tooLongMessage path
  | .nullCharacter => "embedded null byte"

inductive ReadError where
  | voidFile
  | missing (path : Path)
  | tooLong (path : Path)
  | isDirectory (path : Path)
  | notFile (path : Path)
  | encoding (e : Text.Utf8.DecodeError)
  | yaml (path : Path) (failure : Value.Failure)
  | notMapping (path : Path) (typeName : String)
  | settings (e : SettingsError)
  deriving Repr, DecidableEq

def ReadError.message : ReadError → String
  | .voidFile => (voidFileCrash "exists").2
  | .missing path => path.text
  | .tooLong path => tooLongMessage path.text
  | .isDirectory path => "[Errno 21] Is a directory: " ++ Text.quoted path.text
  | .notFile path => "Not a file: " ++ path.text
  | .encoding e => e.message
  | .yaml path (.malformed problem) => "Failed to parse YAML " ++ path.text ++ ": " ++ problem
  | .yaml _ (.refused message) | .yaml _ (.crash _ message) => message
  | .notMapping path typeName =>
    "Top-level YAML must be a mapping in " ++ path.text ++ ", got " ++ typeName
  | .settings e => e.message

/-- Kind and message of a failure that the command does not expect of a reader. -/
def ReadError.crash? : ReadError → Option (String × String)
  | .voidFile => some (voidFileCrash "exists")
  | .yaml _ (.crash kind message) => some (kind, message)
  | _ => none

/-- Text with newlines as line breaks. -/
def decoded (cs : Except Text.Utf8.DecodeError (List Char)) : Except ReadError String :=
  match cs with
  | .ok cs => .ok (String.ofList (Text.Utf8.normalizeNewlines cs))
  | .error e => .error (.encoding e)

/-- Settings that the text of a file gives. An empty document gives the default ones. -/
def settingsOf (yaml : Value.Reader) (path : Path) (text : String) : Except ReadError Settings :=
  match yaml text with
  | .error failure => .error (.yaml path failure)
  | .ok .null => .ok {}
  | .ok (.mapping entries) =>
    match Settings.ofEntries entries with
    | .ok settings => .ok settings
    | .error e => .error (.settings e)
  | .ok value => .error (.notMapping path value.typeName)

/-- Settings in a file; the default ones without a file. -/
def readSettings (yaml : Value.Reader) (tree : FileTree) (file : FileOption) :
    Except ReadError Settings :=
  match file with
  | .absent => .ok {}
  | .void => .error .voidFile
  | .named path =>
    match tree.find path with
    | .missing | .blocked => .error (.missing path)
    | .tooLong => .error (.tooLong path)
    | .directory _ => .error (.isDirectory path)
    | .nullDevice => settingsOf yaml path ""
    | .file _ bytes => do
      let text ← decoded (Text.Utf8.decode bytes)
      settingsOf yaml path text

/-- Source text in a file, or on standard input without a file and for a dash. -/
def readSource (tree : FileTree) (stdin : String) (path : Option Path) : Except ReadError String :=
  let input := String.ofList (Text.Utf8.normalizeNewlines stdin.toList)
  match path with
  | none => .ok input
  | some path =>
    if path.text = "-" then .ok input
    else match tree.find path with
      | .missing | .blocked => .error (.missing path)
      | .tooLong => .error (.tooLong path)
      | .directory _ | .nullDevice => .error (.notFile path)
      | .file _ bytes => decoded (Text.Utf8.decodeSigned bytes)

/-- Text that an option gives, if it gives one that is not empty; else the one from the settings. -/
def override (option setting : Option String) : Option String :=
  match option with
  | some text => if text.isEmpty then setting else some text
  | none => setting

/-- Settings with the options in place of those they stand for. -/
def withOptions (settings : Settings) (o : Options) : Settings :=
  { appearance :=
      { direction := o.direction.or settings.appearance.direction
        theme := override o.theme settings.appearance.theme
        title := (override o.title none).getD settings.appearance.title }
    rules := settings.rules
    strict := settings.strict || o.strict }

def isMarkdown (o : Options) : Bool :=
  match o.format, o.out with
  | .markdown, _ => true
  | .plain, _ => false
  | .auto, .absent | .auto, .void => false
  | .auto, .named path =>
    [['.', 'm', 'd'], ['.', 'm', 'a', 'r', 'k', 'd', 'o', 'w', 'n']].contains
      (path.ending.toList.map Text.toLowerCase)

def markdown (title markup : String) : String := "# " ++ title ++ "\n\n" ++ Mermaid.fenced markup

/-- Text of an output file. Plain markup ends with one line break. -/
def fileText (markdownOutput : Bool) (title markup : String) : String :=
  if markdownOutput then markdown title markup
  else String.ofList (Text.trimRight markup.toList) ++ "\n"

def screenText (markdownOutput : Bool) (title markup : String) : String :=
  if markdownOutput then markdown title markup else markup

def bytesOf (text : String) : List Nat := text.toUTF8.toList.map UInt8.toNat

def warningLine (text : String) : String := "warning: " ++ text ++ "\n"

def errorLine (text : String) : String := "error: " ++ text ++ "\n"

def failed (tree : FileTree) (stderr : String) : Outcome := ⟨2, "", stderr, tree⟩

def deliver (tree : FileTree) (o : Options) (settings : Settings) (markup warnings : String) :
    Except Failure Outcome :=
  match o.out with
  | .absent => .ok ⟨0, screenText (isMarkdown o) settings.appearance.title markup, warnings, tree⟩
  | .void =>
    let (kind, message) := voidFileCrash (if o.format = .auto then "suffix" else "parent")
    .error (.crash kind message)
  | .named path =>
    match tree.write path (bytesOf (fileText (isMarkdown o) settings.appearance.title markup)) with
    | .ok tree => .ok ⟨0, "", warnings, tree⟩
    | .error e => .error (.write e)

/-- Answers a source text. With strict settings, issues are an error. -/
def answer (tree : FileTree) (o : Options) (settings : Settings) (report : Report) :
    Except Failure Outcome :=
  match report with
  | .empty => .ok ⟨0, "", warningLine Report.emptyMessage, tree⟩
  | .error diagnosis => .ok (failed tree (errorLine diagnosis.message))
  | .ok markup issues =>
    let warnings := String.join (issues.map fun issue => warningLine issue.display)
    if settings.strict && !issues.isEmpty then
      .ok (failed tree (warnings ++ errorLine "warnings present and --strict is set"))
    else deliver tree o settings markup warnings

/-- Settings and source text that the options name. Settings are read first. -/
def readInputs (yaml : Value.Reader) (tree : FileTree) (stdin : String) (o : Options) :
    Except ReadError (Settings × String) := do
  let settings ← readSettings yaml tree o.config
  let text ← readSource tree stdin o.source
  .ok (settings, text)

def runWith (yaml : Value.Reader) (tree : FileTree) (stdin : String) (o : Options) :
    Except Failure Outcome :=
  match readInputs yaml tree stdin o with
  | .error e =>
    match e.crash? with
    | some (kind, message) => .error (.crash kind message)
    | none => .ok (failed tree (errorLine e.message))
  | .ok (settings, text) =>
    let settings := withOptions settings o
    match Report.ofText text settings with
    | .error e => .error (.drawing e)
    | .ok report => answer tree o settings report

/-- Runs the command with these arguments. -/
def run (yaml : Value.Reader) (tree : FileTree) (stdin : String) (arguments : List String) :
    Except Failure Outcome :=
  match Options.ofArguments arguments with
  | .error e => .ok (failed tree ("fsmviz: error: " ++ e.message ++ "\n"))
  | .ok none => .ok ⟨0, helpText, "", tree⟩
  | .ok (some o) => runWith yaml tree stdin o

end ActorDiagram.Command
