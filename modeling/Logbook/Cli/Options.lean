import Logbook.Number.Decimal
import Logbook.Text.Blank

/-!
# Options

What is asked for on the command line: files, and options among them. An option has a long name after
two hyphens, most also a letter after one. Its value is the next word or is attached to it: after an
equals sign, or directly after the letter. A word that looks like an option is never the value of the
one before it. Every option is given at most once, and after the word `--` there are only files.

The words are read from left to right (`Request.ofWords?`). The first that is wrong makes the whole
command line wrong; the first that asks for help or for the version is answered at once.
-/

namespace Logbook.Cli

/-- The options that have a value. -/
inductive Setting where
  /-- A query to answer. -/
  | query
  /-- A file with the settings. -/
  | config
  /-- The number of entries to show. -/
  | limit
  deriving DecidableEq

/-- A word of the command line. -/
inductive Word where
  /-- A file, or a value. -/
  | plain (s : String)
  /-- An option whose value is the next word. -/
  | setting (s : Setting)
  /-- An option with its value. -/
  | assignment (s : Setting) (value : String)
  /-- The end of the options. -/
  | endOfOptions
  /-- The wish for help. -/
  | help
  /-- The wish for the version. -/
  | version
  /-- An option that there is not. -/
  | unknown
  deriving DecidableEq

namespace Word

/-- An option with the value attached to it, if there is one. -/
def ofSetting (s : Setting) : Option (List Char) → Word
  | none => .setting s
  | some value => .assignment s (String.ofList value)

/-- The word of a long name and the value attached to it. -/
def ofLong (name : List Char) (value : Option (List Char)) : Word :=
  match String.ofList name with
  | "query" => ofSetting .query value
  | "config" => ofSetting .config value
  | "limit" => ofSetting .limit value
  | "help" => if value.isNone then .help else .unknown
  | "version" => if value.isNone then .version else .unknown
  | _ => .unknown

/-- The value that is attached to a letter. -/
def attached? : List Char → Option (List Char)
  | [] => none
  | '=' :: cs => some cs
  | cs => some cs

/-- The word of a letter and what follows it. -/
def ofLetter (letter : Char) (rest : List Char) : Word :=
  match letter with
  | 'q' => ofSetting .query (attached? rest)
  | 'l' => ofSetting .limit (attached? rest)
  | 'h' => .help
  | 'V' => .version
  | _ => .unknown

/-- What a word means. -/
def ofText (s : String) : Word :=
  match s.toList with
  | ['-', '-'] => .endOfOptions
  | '-' :: '-' :: cs =>
    match Text.cut? '=' cs with
    | some (name, value) => ofLong name (some value)
    | none => ofLong cs none
  | '-' :: c :: cs => ofLetter c cs
  | _ => .plain s

end Word

/-- The options of a run. -/
structure Options where
  /-- The files to load; if there are none, the input is loaded. -/
  files : List String := []
  /-- The query to answer; if there is none, commands are read from the input. -/
  query : Option String := none
  /-- The file with the settings. -/
  config : Option String := none
  /-- The number of entries to show, if it is given. -/
  limit : Option Nat := none
  deriving DecidableEq, Inhabited

namespace Options

/-- The number of entries that are shown unless another one is given. -/
def defaultLimit : Nat :=
  20

/-- The number of entries to show. -/
def rowLimit (o : Options) : Nat :=
  o.limit.getD defaultLimit

/-- Adds a file. Every file has a name. -/
def addFile? (o : Options) (name : String) : Option Options :=
  if name.isEmpty then none else some { o with files := o.files ++ [name] }

/-- Sets an option that is not set yet. -/
def set? (o : Options) (s : Setting) (value : String) : Option Options :=
  match s with
  | .query => if o.query.isSome then none else some { o with query := some value }
  | .config =>
    if o.config.isSome || value.isEmpty then none else some { o with config := some value }
  | .limit =>
    if o.limit.isSome then none
    else (natural64? value.toList).map fun n => { o with limit := some n }

end Options

/-- What is asked for. -/
inductive Request where
  /-- A run. -/
  | run (o : Options)
  /-- Help. -/
  | help
  /-- The version. -/
  | version
  deriving DecidableEq

namespace Request

/-- What is asked for by options and further words. -/
def ofWords? (o : Options) : List String → Option Request
  | [] => some (.run o)
  | word :: words =>
    match Word.ofText word with
    | .plain name => (o.addFile? name).bind (ofWords? · words)
    | .assignment s value => (o.set? s value).bind (ofWords? · words)
    | .setting s =>
      match words with
      | [] => none
      | value :: words =>
        match Word.ofText value with
        | .plain value => (o.set? s value).bind (ofWords? · words)
        | _ => none
    | .endOfOptions => (words.foldlM Options.addFile? o).map .run
    | .help => some .help
    | .version => some .version
    | .unknown => none

/-- What is asked for on the command line. -/
def ofArguments? (words : List String) : Option Request :=
  ofWords? {} words

end Request

/-- What is told of the command line. -/
def helpText : List String :=
  ["Query mixed-format log files with a structured query language or free text",
    "",
    "Usage: logchaos [OPTIONS] [FILE]...",
    "",
    "Arguments:",
    "  [FILE]...  The file(s) to load. If not provided, reads from stdin",
    "",
    "Options:",
    "  -q, --query <QUERY>    The query to run in non-interactive mode",
    "      --config <CONFIG>  JSON file overriding the index and search settings",
    "  -l, --limit <LIMIT>    How many matching entries to print per query [default: 20]",
    "  -h, --help             Print help",
    "  -V, --version          Print version"]

/-- What is told of the version. -/
def versionText : List String :=
  ["logchaos 0.1.0"]

end Logbook.Cli
