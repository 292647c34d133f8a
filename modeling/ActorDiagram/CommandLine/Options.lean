import ActorDiagram.CommandLine.Path
import ActorDiagram.Settings.Basic
import ActorDiagram.Text.Letter

/-!
Options of the command. Long options may be cut short where that is not ambiguous, `--opt=value`
stands for `--opt value`, and after `--` nothing is an option.
-/

namespace ActorDiagram

/-- Form of the output: plain markup or Markdown, or the one that the name of the output file asks
for. -/
inductive OutputForm where
  | auto
  | plain
  | markdown
  deriving Repr, DecidableEq

def OutputForm.name : OutputForm → String
  | .auto => "auto"
  | .plain => "mmd"
  | .markdown => "md"

/-- File that an option names. -/
inductive FileOption where
  | absent
  | named (path : Path)
  /-- The option is there, but names no file. -/
  | void
  deriving Repr, DecidableEq

def FileOption.path? : FileOption → Option Path
  | .named path => some path
  | _ => none

/-- What the command is asked to do. -/
structure Options where
  source : Option Path := none
  out : FileOption := .absent
  format : OutputForm := .auto
  config : FileOption := .absent
  direction : Option Direction := none
  theme : Option String := none
  title : Option String := none
  strict : Bool := false
  deriving Repr, DecidableEq

/-- Why arguments are refused. -/
inductive UsageError where
  | ambiguous (argument : String) (matching : List String)
  | missingValue (option : String)
  | needlessValue (option value : String)
  | invalidChoice (option value : String) (choices : List String)
  | unrecognized (arguments : List String)
  deriving Repr, DecidableEq

def UsageError.message : UsageError → String
  | .ambiguous argument matching =>
    "ambiguous option: " ++ argument ++ " could match " ++ ", ".intercalate matching
  | .missingValue option => "argument " ++ option ++ ": expected one argument"
  | .needlessValue option value =>
    "argument " ++ option ++ ": ignored explicit argument " ++ Text.quoted value
  | .invalidChoice option value choices =>
    "argument " ++ option ++ ": invalid choice: " ++ Text.quoted value ++ " (choose from " ++
      ", ".intercalate (choices.map Text.quoted) ++ ")"
  | .unrecognized arguments => "unrecognized arguments: " ++ " ".intercalate arguments

inductive Flag where
  | help
  | out
  | format
  | config
  | direction
  | theme
  | title
  | strict
  deriving Repr, DecidableEq

namespace Flag

def spellings : List (String × Flag) :=
  [("-h", .help), ("--help", .help), ("--out", .out), ("--format", .format),
    ("--config", .config), ("--direction", .direction), ("--theme", .theme), ("--title", .title),
    ("--strict", .strict)]

def name : Flag → String
  | .help => "-h/--help"
  | .out => "--out"
  | .format => "--format"
  | .config => "--config"
  | .direction => "--direction"
  | .theme => "--theme"
  | .title => "--title"
  | .strict => "--strict"

def takesValue : Flag → Bool
  | .help | .strict => false
  | _ => true

end Flag

/-- What one argument is. -/
inductive Argument where
  /-- A value, or the source. -/
  | plain (text : String)
  /-- The mark before arguments that are no options. -/
  | separator
  /-- An option, with the value that is written into the argument. -/
  | option (flag : Flag) (value : Option String)
  | unknown (text : String)
  deriving Repr, DecidableEq

namespace Argument

/-- The end of a text, or one line break before it. -/
def isEnd (cs : List Char) : Bool := cs.isEmpty || cs == ['\n']

/-- Number below zero in digits of any script, which is a value and no option. -/
def isNegativeNumber (cs : List Char) : Bool :=
  match cs with
  | '-' :: ds =>
    let whole := ds.takeWhile Text.isDecimal
    match ds.drop whole.length with
    | '.' :: rest =>
      let fraction := rest.takeWhile Text.isDecimal
      !fraction.isEmpty && isEnd (rest.drop fraction.length)
    | rest => !whole.isEmpty && isEnd rest
  | _ => false

def splitEquals (cs : List Char) : List Char × Option (List Char) :=
  let front := cs.takeWhile (· != '=')
  (front, if front.length = cs.length then none else some (cs.drop (front.length + 1)))

/-- Value behind the letter of a short option. The letter repeated says the same again. -/
def shortValue (cs : List Char) : Option String :=
  let rest := cs.dropWhile (· == 'h')
  if rest.isEmpty && !cs.isEmpty then none else some (String.ofList rest)

/-- Option spelled out in full, alone or before `=`. -/
def spelledOut? (text : String) : Option Argument :=
  match Flag.spellings.lookup text, splitEquals text.toList with
  | some flag, _ => some (.option flag none)
  | none, (front, some tail) =>
    (Flag.spellings.lookup (String.ofList front)).map fun flag =>
      .option flag (if front = ['-', 'h'] then shortValue tail else some (String.ofList tail))
  | none, (_, none) => none

/-- Options that an argument may mean, with their spellings: those that a long one starts, or the
short one. -/
def candidates (text : String) : List (String × Argument) :=
  match text.toList with
  | '-' :: '-' :: _ =>
    let (front, tail) := splitEquals text.toList
    (Flag.spellings.filter fun (spelling, _) => front.isPrefixOf spelling.toList).map
      fun (spelling, flag) => (spelling, .option flag (tail.map String.ofList))
  | '-' :: 'h' :: cs => [("-h", .option .help (shortValue cs))]
  | _ => []

def ofText (text : String) : Except UsageError Argument :=
  if text.toList.head? != some '-' || text == "-" then .ok (.plain text)
  else match spelledOut? text, candidates text with
    | some argument, _ => .ok argument
    | none, [(_, argument)] => .ok argument
    | none, [] =>
      if isNegativeNumber text.toList || text.toList.contains ' ' then .ok (.plain text)
      else .ok (.unknown text)
    | none, several => .error (.ambiguous text (several.map (·.1)))

def ofTexts : List String → Except UsageError (List Argument)
  | [] => .ok []
  | text :: texts =>
    if text = "--" then .ok (.separator :: texts.map .plain)
    else do
      let argument ← ofText text
      let rest ← ofTexts texts
      .ok (argument :: rest)

end Argument

namespace Options

def choose {α : Type} (flag : Flag) (name : α → String) (choices : List α) (value : String) :
    Except UsageError α :=
  match choices.find? (name · == value) with
  | some choice => .ok choice
  | none => .error (.invalidChoice flag.name value (choices.map name))

def set (o : Options) (flag : Flag) (value : String) : Except UsageError Options :=
  match flag with
  | .out => .ok { o with out := .named (Path.ofText value) }
  | .config => .ok { o with config := .named (Path.ofText value) }
  | .theme => .ok { o with theme := some value }
  | .title => .ok { o with title := some value }
  | .format => do
    let format ← choose flag OutputForm.name [.auto, .plain, .markdown] value
    .ok { o with format }
  | .direction => do
    let direction ← choose flag Direction.name Direction.all (Text.toUpperCase value)
    .ok { o with direction := some direction }
  | .strict => .ok { o with strict := true }
  | .help => .ok o

/-- Options after one with `--` for its value, which leaves it without a value. Output in no form is
plain markup. -/
def clear (o : Options) : Flag → Options
  | .out => { o with out := .void }
  | .config => { o with config := .void }
  | .theme => { o with theme := none }
  | .title => { o with title := none }
  | .format => { o with format := .plain }
  | .direction => { o with direction := none }
  | .strict | .help => o

/-- Arguments read so far. -/
structure Progress where
  options : Options := {}
  /-- Help is asked for; nothing after that counts. -/
  help : Bool := false
  /-- The option whose value comes next. -/
  pending : Option Flag := none
  sourceRead : Bool := false
  /-- The source is the argument just read. -/
  atSource : Bool := false
  /-- Arguments that mean nothing. -/
  extras : List String := []
  deriving Repr, DecidableEq

namespace Progress

/-- Reads a value that belongs to no option: the source, unless there has been one. -/
def plain (p : Progress) (text : String) : Progress :=
  if p.sourceRead then { p with atSource := false, extras := p.extras ++ [text] }
  else
    { p with
      sourceRead := true
      atSource := true
      options := { p.options with source := some (Path.ofText text) } }

/-- Reads a separator. It goes with the source that is next to it. -/
def separator (p : Progress) : Progress :=
  if p.sourceRead && !p.atSource then { p with extras := p.extras ++ ["--"] } else p

/-- Reads an option. -/
def option (p : Progress) (flag : Flag) (value : Option String) : Except UsageError Progress :=
  let p := { p with atSource := false }
  match value, flag.takesValue with
  | some text, true => do
    let options ← if text = "--" then .ok (p.options.clear flag) else p.options.set flag text
    .ok { p with options }
  | some text, false => .error (.needlessValue flag.name text)
  | none, true => .ok { p with pending := some flag }
  | none, false => do
    let options ← p.options.set flag ""
    .ok { p with options, help := flag = .help }

def step (p : Progress) (argument : Argument) : Except UsageError Progress :=
  if p.help then .ok p
  else match p.pending, argument with
    | some flag, .plain text => do
      let options ← p.options.set flag text
      .ok { p with options, pending := none }
    | some flag, _ => .error (.missingValue flag.name)
    | none, .plain text => .ok (p.plain text)
    | none, .separator => .ok p.separator
    | none, .unknown text => .ok { p with atSource := false, extras := p.extras ++ [text] }
    | none, .option flag value => p.option flag value

/-- Options when all arguments are read; `none` if help is asked for. -/
def finish (p : Progress) : Except UsageError (Option Options) :=
  if p.help then .ok none
  else match p.pending, p.extras with
    | some flag, _ => .error (.missingValue flag.name)
    | none, [] => .ok (some p.options)
    | none, extras => .error (.unrecognized extras)

end Progress

/-- Options that arguments ask for; `none` if they ask for help. -/
def ofArguments (arguments : List String) : Except UsageError (Option Options) := do
  let arguments ← Argument.ofTexts arguments
  let p ← arguments.foldlM Progress.step {}
  p.finish

end Options

end ActorDiagram
