import Logbook.Entry.View
import Logbook.Field.Value

/-!
# Fields of entries

A name is looked up in an entry in three steps; the first that knows the name decides, also when it
has no value for it.

1. Some names mean the same for every format (`Entry.commonField?`).
2. Every format has names for its own members (`Entry.formatField?`).
3. Any other name is a path of keys and list positions, with points between them, through the
   members that the entry holds (`Entry.at?`).

Where a step knows a name, its answer is an `Option`: the entry may lack a value.
-/

namespace Logbook

/-! ## Paths -/

namespace Json

/-- The value that a path leads to. -/
def at? : Json → List String → Option Json
  | v, [] => some v
  | .object fields, step :: rest => (Fields.get? fields step).bind (at? · rest)
  | .array items, step :: rest => ((natural64? step.toList).bind (items[·]?)).bind (at? · rest)
  | _, _ :: _ => none

end Json

/-- The value that a path leads to from the members of an object. -/
def Fields.at? (fields : Fields) : List String → Option Json
  | [] => none
  | step :: rest => (fields.get? step).bind (·.at? rest)

namespace Entry

/-! ## Names -/

/-- The value of a name that all formats share. -/
def commonField? (e : Entry) (name : String) : Option (Option FieldValue) :=
  let natural (n : Nat) : FieldValue := .number (.ofInt n)
  match name with
  | "kind" => some (some (.text e.kind.name))
  | "level" => some (some (.text e.level.name))
  | "environment" | "env" => some (some (.text e.environment.name))
  | "message" | "msg" => some (some (.text e.message))
  | "timestamp" => some (e.timestamp?.map fun t => .number (.ofInt t))
  | "method" => some ((e.http?.bind (·.method)).map .text)
  | "url" => some ((e.http?.bind (·.url)).map .text)
  | "statusCode" | "status" => some ((e.http?.bind (·.status)).map natural)
  | "responseTimeMs" => some ((e.http?.bind (·.responseTime)).map .number)
  | _ => none

/-- The value of a name that the entry's format gives to one of its members. -/
def formatField? (e : Entry) (name : String) : Option (Option FieldValue) :=
  match e, name with
  | .pino r, "pid" => some (r.pid.map fun n => .number (.ofInt n))
  | .pino r, "hostname" => some (r.hostname.map .text)
  | .pino r, "name" | .pino r, "service" => some (r.name.map .text)
  | .pino r, "time" => some (some (.number (.ofInt r.time)))
  | .pino r, "rawLevel" => some (some (.number (.ofInt r.level)))
  | .winston r, "rawLevel" => some (some (.text r.level))
  | .loki r, "ts" => some (some (.text r.ts))
  | .loki r, "line" => some (some (.text r.line))
  | .loki r, "service" => some ((r.labels.get? "app").bind FieldValue.ofJson?)
  | .loki r, "host" => some ((r.labels.get? "instance").bind FieldValue.ofJson?)
  | .promtail r, "ts" => some (some (.text r.ts))
  | .promtail r, "rawLevel" => some (some (.text r.level))
  | .docker r, "stream" => some (some (.text r.stream))
  | .docker r, "log" => some (some (.text r.log))
  | .docker r, "time" => some (some (.text r.time))
  | .text line, "line" => some (some (.text line))
  | _, _ => none

/-- The value that a path leads to from the members of the entry. -/
def at? (e : Entry) (path : List String) : Option Json :=
  match e, path with
  | .pino r, "req" :: rest => r.req.bind (·.at? rest)
  | .pino r, "res" :: rest => r.res.bind (·.at? rest)
  | .pino r, "meta" :: rest => r.details.bind (·.at? rest)
  | .pino r, path => r.extra.at? path
  | .winston r, "meta" :: rest => r.details.bind (·.at? rest)
  | .winston r, path =>
    r.extra.at? path <|> (r.details.bind Json.fields?).bind (·.at? path)
  | .loki r, "labels" :: rest => r.labels.at? rest
  | .loki r, path => r.labels.at? path
  | .promtail r, path => r.extra.at? path
  | .unknownJson v, path => v.at? path
  | .docker _, _ | .text _, _ => none

/-- The steps of a path, unless one of them is empty. -/
def path? (name : List Char) : Option (List String) :=
  let steps := name.splitOn '.'
  if steps.any (·.isEmpty) then none else some (steps.map String.ofList)

/-- The value of a field, by its name with blanks around it. -/
def field? (e : Entry) (name : String) : Option FieldValue :=
  let cs := Text.trim name.toList
  let name := String.ofList cs
  match e.commonField? name with
  | some value => value
  | none => match e.formatField? name with
    | some value => value
    | none => ((path? cs).bind e.at?).bind FieldValue.ofJson?

end Entry

end Logbook
