import Logbook.Text.Blank

/-!
# Kinds, levels and environments

The closed vocabularies that entries of every format are described in. Each word has one canonical
name. Levels and environments are also known under the names that log formats and people use for
them (`Level.ofAlias?`, `Environment.ofAlias?`); there blanks around the name and the case of ASCII
letters do not count.
-/

namespace Logbook

/-- The formats that a record may have. -/
inductive Kind where
  /-- A record with a time in milliseconds and a numeric level. -/
  | pino
  /-- A record with a timestamp, a level and a message. -/
  | winston
  /-- A line with labels. -/
  | loki
  /-- A record with a short timestamp, a level and a message. -/
  | promtail
  /-- A line of a container's output. -/
  | docker
  /-- Any other JSON value. -/
  | unknownJson
  /-- A line of text. -/
  | text
  deriving DecidableEq, Inhabited

/-- How grave an entry is. -/
inductive Level where
  /-- A step of the program. -/
  | trace
  /-- For those who look for a fault. -/
  | debug
  /-- The usual course of things. -/
  | info
  /-- Something to keep an eye on. -/
  | warn
  /-- Something that failed. -/
  | error
  /-- The end of the program. -/
  | fatal
  /-- It cannot be told. -/
  | unknown
  deriving DecidableEq, Inhabited

/-- Where an entry was written. -/
inductive Environment where
  /-- On a developer's machine. -/
  | dev
  /-- Where a release is tried out. -/
  | staging
  /-- In service. -/
  | prod
  /-- It cannot be told. -/
  | unknown
  deriving DecidableEq, Inhabited

namespace Kind

/-- All kinds. -/
def all : List Kind :=
  [.pino, .winston, .loki, .promtail, .docker, .unknownJson, .text]

/-- The name of a kind. -/
def name : Kind → String
  | .pino => "pino"
  | .winston => "winston"
  | .loki => "loki"
  | .promtail => "promtail"
  | .docker => "docker"
  | .unknownJson => "unknown-json"
  | .text => "text"

/-- The kind of a name. -/
def ofName? (s : String) : Option Kind :=
  all.find? (·.name = s)

end Kind

/-- A name as it is compared with the known ones. -/
def aliasKey (s : String) : String :=
  String.ofList (Text.asciiLower (Text.trim s.toList))

namespace Level

/-- The name of a level. -/
def name : Level → String
  | .trace => "trace"
  | .debug => "debug"
  | .info => "info"
  | .warn => "warn"
  | .error => "error"
  | .fatal => "fatal"
  | .unknown => "unknown"

/-- The level that a native name stands for. -/
def ofAlias? (s : String) : Option Level :=
  match aliasKey s with
  | "trace" | "silly" => some .trace
  | "debug" | "verbose" => some .debug
  | "info" | "http" | "notice" => some .info
  | "warn" | "warning" => some .warn
  | "error" | "err" => some .error
  | "fatal" | "critical" | "crit" | "panic" => some .fatal
  | "unknown" => some .unknown
  | _ => none

/-- The level that a native name stands for, if any. -/
def ofAlias (s : String) : Level :=
  (ofAlias? s).getD .unknown

/-- The level of a numeric code. -/
def ofCode : Nat → Level
  | 10 => .trace
  | 20 => .debug
  | 30 => .info
  | 40 => .warn
  | 50 => .error
  | 60 => .fatal
  | _ => .unknown

end Level

namespace Environment

/-- The name of an environment. -/
def name : Environment → String
  | .dev => "dev"
  | .staging => "staging"
  | .prod => "prod"
  | .unknown => "unknown"

/-- The environment that a native name stands for. -/
def ofAlias? (s : String) : Option Environment :=
  match aliasKey s with
  | "dev" | "development" | "local" => some .dev
  | "staging" | "stage" => some .staging
  | "prod" | "production" => some .prod
  | "unknown" => some .unknown
  | _ => none

end Environment

end Logbook
