import Logbook.Json.Basic
import Logbook.Entry.Names

/-!
# Entries

An entry is a record in one of seven formats. Where a format lets a record hold more than it names,
the other members are kept as they are (`extra`).
-/

namespace Logbook

/-- A record with a numeric level, which may tell of a request and its answer. -/
structure Pino where
  /-- Milliseconds since the beginning of 1970. -/
  time : Int
  /-- The code of the level. -/
  level : Nat
  /-- The message. -/
  msg : String
  /-- The number of the process. -/
  pid : Option Nat
  /-- The machine. -/
  hostname : Option String
  /-- The program. -/
  name : Option String
  /-- A request. -/
  req : Option Json
  /-- The answer to the request. -/
  res : Option Json
  /-- Details. -/
  details : Option Json
  /-- The other members. -/
  extra : Fields

/-- A record with a written timestamp and a named level. -/
structure Winston where
  /-- The time, as written. -/
  timestamp : String
  /-- The level, as named by the program. -/
  level : String
  /-- The message. -/
  message : String
  /-- Details. -/
  details : Option Json
  /-- The other members. -/
  extra : Fields

/-- A line with labels. -/
structure Loki where
  /-- The time, as written. -/
  ts : String
  /-- The labels. -/
  labels : Fields
  /-- The line. -/
  line : String

/-- A record with a written time and a named level. -/
structure Promtail where
  /-- The time, as written. -/
  ts : String
  /-- The level, as named by the program. -/
  level : String
  /-- The message. -/
  message : String
  /-- The other members. -/
  extra : Fields

/-- A line of a container's output. -/
structure Docker where
  /-- The line, with its end. -/
  log : String
  /-- The stream that it was written to. -/
  stream : String
  /-- The time, as written. -/
  time : String

/-- An entry: a record in one of the known formats, any other JSON value, or a line of text. -/
inductive Entry where
  /-- A record with a numeric level. -/
  | pino (r : Pino)
  /-- A record with a timestamp and a named level. -/
  | winston (r : Winston)
  /-- A line with labels. -/
  | loki (r : Loki)
  /-- A record with a short timestamp and a named level. -/
  | promtail (r : Promtail)
  /-- A line of a container's output. -/
  | docker (r : Docker)
  /-- Any other JSON value. -/
  | unknownJson (value : Json)
  /-- A line of text. -/
  | text (line : String)

namespace Entry

instance : Inhabited Entry := ⟨.text ""⟩

/-- The format of an entry. -/
def kind : Entry → Kind
  | .pino _ => .pino
  | .winston _ => .winston
  | .loki _ => .loki
  | .promtail _ => .promtail
  | .docker _ => .docker
  | .unknownJson _ => .unknownJson
  | .text _ => .text

/-- A member, if there is a value for it. -/
def member? (key : String) (value : Option Json) : List (String × Json) :=
  value.toList.map (key, ·)

/-- The members of a record, in the order of its format and the extra ones after them; the members
    of a line of text; or the value of any other entry. -/
def payload : Entry → Json
  | .pino r => .object <|
    [("time", .integer r.time), ("level", .integer r.level), ("msg", .string r.msg)] ++
      member? "pid" (r.pid.map fun n => .integer n) ++
      member? "hostname" (r.hostname.map .string) ++ member? "name" (r.name.map .string) ++
      member? "req" r.req ++ member? "res" r.res ++ member? "meta" r.details ++ r.extra
  | .winston r => .object <|
    [("timestamp", .string r.timestamp), ("level", .string r.level),
      ("message", .string r.message)] ++ member? "meta" r.details ++ r.extra
  | .loki r => .object
    [("ts", .string r.ts), ("labels", .object r.labels), ("line", .string r.line)]
  | .promtail r => .object <|
    [("ts", .string r.ts), ("level", .string r.level), ("message", .string r.message)] ++ r.extra
  | .docker r => .object
    [("log", .string r.log), ("stream", .string r.stream), ("time", .string r.time)]
  | .unknownJson v => v
  | .text line => .object [("line", .string line)]

/-- The entry as a JSON value to be written: its kind and its payload. -/
def tagged (e : Entry) : Json :=
  .object [("kind", .string e.kind.name), ("entry", e.payload)]

/-- Whether two entries are the same record. -/
def same (a b : Entry) : Bool :=
  a.kind = b.kind && a.payload.same b.payload

end Entry

end Logbook
