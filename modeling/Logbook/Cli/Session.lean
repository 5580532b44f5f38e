import Logbook.Cli.Options
import Logbook.Cli.Report

/-!
# Sessions

A session loads its files into a store, and then answers the query of its options or the commands
that are typed, one in each line, until there are no more or one of them ends the session. A file
that cannot be loaded ends it at once.

`run` is a whole session as a function of what it is given: the words of the command line, the
files, the input, and the text that stands for how long things take.
-/

namespace Logbook.Cli

/-! ## Loading -/

/-- Why a session ends early. -/
inductive Fault where
  /-- The settings cannot be taken from a file. -/
  | settings (name : String)
  /-- There is no such file. -/
  | missing (name : String)
  /-- A file cannot be read. -/
  | unreadable (fault : FileFault)
  deriving DecidableEq

/-- What is told of a fault. -/
def Fault.message : Fault → String
  | .settings name => "failed to load config from " ++ name
  | .missing name => "failed to open " ++ name
  | .unreadable fault => fault.message

/-- The settings of a session. -/
def settings (find : String → Finding) (o : Options) : Except Fault Settings :=
  match o.config with
  | none => .ok {}
  | some name => (Settings.ofFile (find name)).mapError fun _ => .settings name

/-- Adds the entries of a file to a store. -/
def addBytes (s : Store) (bytes : Bytes) : Except Fault Store :=
  (s.ingest bytes).mapError .unreadable

/-- Adds the entries of what is found under a name. -/
def addFinding (s : Store) (name : String) : Finding → Except Fault Store
  | .missing => .error (.missing name)
  | .directory => .error (.unreadable .directory)
  | .file bytes => addBytes s bytes

/-- What is printed when a file is loaded. -/
def loadingLine (name : String) : String :=
  "Loading from " ++ name ++ "..."

/-- Adds the entries of files, one file after the other. The names of the files are printed as far
    as they are reached. -/
def addFiles (find : String → Finding) (s : Store) :
    List String → List String × Except Fault Store
  | [] => ([], .ok s)
  | name :: names =>
    match addFinding s name (find name) with
    | .error fault => ([loadingLine name], .error fault)
    | .ok s =>
      let (lines, loaded) := addFiles find s names
      (loadingLine name :: lines, loaded)

/-- Loads the files of a session, or its input if there are none. -/
def load (find : String → Finding) (input : Bytes) (o : Options) (s : Settings) :
    List String × Except Fault Store :=
  if o.files.isEmpty then ([loadingLine "stdin"], addBytes (.empty s) input)
  else addFiles find (.empty s) o.files

/-- What is printed once everything is loaded. -/
def loadedLines (s : Store) (took : String) : List String :=
  ["Loaded " ++ toString s.size ++ " entries in " ++ took, ""]

/-! ## Commands -/

/-- What is typed in a line. -/
inductive Command where
  /-- Nothing. -/
  | blank
  /-- The end of the session. -/
  | quit
  /-- The sizes and settings of the store. -/
  | stats
  /-- Whether a text is a query without errors. -/
  | check (text : String)
  /-- A query. -/
  | query (text : String)
  deriving DecidableEq

/-- How a line begins that asks for a check. -/
def checkMark : List Char :=
  ":check".toList

/-- The command in a line. -/
def Command.ofLine (line : String) : Command :=
  let cs := Text.trim line.toList
  if cs.isEmpty then .blank
  else
    let text := String.ofList cs
    if text = "quit" ∨ text = "q" then .quit
    else if text = ":stats" then .stats
    else if checkMark.isPrefixOf cs then
      .check (String.ofList (Text.trim (cs.drop checkMark.length)))
    else .query text

/-- What is printed of a check. -/
def checkLines (text : String) : List String :=
  let validation := Outcome.validate text
  (if validation.valid then ["ok"] else []) ++ validation.errors.map QueryError.line

/-- The reply to a command. -/
def Command.reply (s : Store) (limit : Nat) (took : String) : Command → List String
  | .blank | .quit => []
  | .stats => [s.shown]
  | .check text => checkLines text
  | .query text => (Report.ofQuery s limit took text).lines ++ [""]

/-- What is printed before the first command. -/
def greeting : String :=
  "Welcome to logchaos. Type a query, \":stats\", \":check <query>\" or \"quit\" to exit."

/-- The replies to the commands in some lines, up to the one that ends the session. -/
def replies (s : Store) (limit : Nat) (took : String) (lines : List String) : List String :=
  ((lines.map Command.ofLine).takeWhile (· ≠ .quit)).flatMap (Command.reply s limit took)

/-- The lines of an input, up to the first that is not a text. -/
def typedLines (input : Bytes) : List String :=
  ((input.lines.map Bytes.text?).takeWhile Option.isSome).filterMap id

/-! ## Whole sessions -/

/-- How a session went. -/
structure Record where
  /-- The lines that it printed. -/
  lines : List String
  /-- Why it ended early. -/
  fault : Option Fault
  /-- Its exit status. -/
  status : Nat

/-- What is printed once a store is loaded. -/
def answers (s : Store) (o : Options) (took : String) (input : Bytes) : List String :=
  match o.query with
  | some text => (Report.ofQuery s o.rowLimit took text).lines
  | none => greeting :: replies s o.rowLimit took (typedLines input)

/-- The input that is left for commands. -/
def leftInput (o : Options) (input : Bytes) : Bytes :=
  if o.files.isEmpty then [] else input

/-- A session with the given options. -/
def runWith (find : String → Finding) (input : Bytes) (took : String) (o : Options) : Record :=
  match settings find o with
  | .error fault => ⟨[], some fault, 1⟩
  | .ok settings =>
    match load find input o settings with
    | (lines, .error fault) => ⟨lines, some fault, 1⟩
    | (lines, .ok s) =>
      ⟨lines ++ loadedLines s took ++ answers s o took (leftInput o input), none, 0⟩

/-- A session with the given words on the command line. -/
def run (find : String → Finding) (input : Bytes) (took : String) (words : List String) : Record :=
  match Request.ofArguments? words with
  | none => ⟨[], none, 2⟩
  | some .help => ⟨helpText, none, 0⟩
  | some .version => ⟨versionText, none, 0⟩
  | some (.run o) => runWith find input took o

end Logbook.Cli
