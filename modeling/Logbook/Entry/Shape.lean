import Logbook.Entry.Basic

/-!
# The shapes of records

A JSON object is a record of a format if it has the members that the format requires, with values
of the right types. `Pino.ofMembers?` and its like read a record from the members of an object as
they were written; a member that the format names may stand there only once, and a member without a
value (`null`) counts as absent where the format allows that.

`Entry.classify` takes an object for a record of the first format whose shape it has.
-/

namespace Logbook

/-- Whether each of the keys names at most one member. -/
def eachOnce (keys : List String) (members : List (String × Json)) : Bool :=
  keys.all fun key => (members.filter (·.1 = key)).length ≤ 1

/-- The value of a member that may be absent, and is so if it is `null`. -/
def optional? {α : Type} (read : Json → Option α) : Option Json → Option (Option α)
  | none | some .null => some none
  | some v => (read v).map some

/-- The members that a format does not name. -/
def others (keys : List String) (members : List (String × Json)) : Fields :=
  .ofList (members.filter fun (key, _) => !keys.contains key)

namespace Pino

/-- The members that the format names. -/
def keys : List String :=
  ["time", "level", "msg", "pid", "hostname", "name", "req", "res", "meta"]

/-- The record that has these members. -/
def ofMembers? (members : List (String × Json)) : Option Pino := do
  if eachOnce keys members then
    return {
      time := ← (← Fields.get? members "time").signed?
      level := ← (← Fields.get? members "level").unsigned?
      msg := ← (← Fields.get? members "msg").string?
      pid := ← optional? Json.unsigned? (Fields.get? members "pid")
      hostname := ← optional? Json.string? (Fields.get? members "hostname")
      name := ← optional? Json.string? (Fields.get? members "name")
      req := ← optional? some (Fields.get? members "req")
      res := ← optional? some (Fields.get? members "res")
      details := ← optional? some (Fields.get? members "meta")
      extra := others keys members }
  else none

end Pino

namespace Winston

@[inherit_doc Pino.keys]
def keys : List String :=
  ["timestamp", "level", "message", "meta"]

@[inherit_doc Pino.ofMembers?]
def ofMembers? (members : List (String × Json)) : Option Winston := do
  if eachOnce keys members then
    return {
      timestamp := ← (← Fields.get? members "timestamp").string?
      level := ← (← Fields.get? members "level").string?
      message := ← (← Fields.get? members "message").string?
      details := ← optional? some (Fields.get? members "meta")
      extra := others keys members }
  else none

end Winston

namespace Loki

@[inherit_doc Pino.keys]
def keys : List String :=
  ["ts", "labels", "line"]

/-- The record that has these values, in the order of the format. -/
def ofItems? : List Json → Option Loki
  | [.string ts, .object labels, .string line] => some ⟨ts, labels, line⟩
  | _ => none

/-- The record that has these members; others are passed over. -/
def ofMembers? (members : List (String × Json)) : Option Loki :=
  if eachOnce keys members then (keys.mapM (Fields.get? members)).bind ofItems? else none

end Loki

namespace Promtail

@[inherit_doc Pino.keys]
def keys : List String :=
  ["ts", "level", "message"]

@[inherit_doc Pino.ofMembers?]
def ofMembers? (members : List (String × Json)) : Option Promtail := do
  if eachOnce keys members then
    return {
      ts := ← (← Fields.get? members "ts").string?
      level := ← (← Fields.get? members "level").string?
      message := ← (← Fields.get? members "message").string?
      extra := others keys members }
  else none

end Promtail

namespace Docker

@[inherit_doc Pino.keys]
def keys : List String :=
  ["log", "stream", "time"]

@[inherit_doc Loki.ofItems?]
def ofItems? : List Json → Option Docker
  | [.string log, .string stream, .string time] => some ⟨log, stream, time⟩
  | _ => none

@[inherit_doc Loki.ofMembers?]
def ofMembers? (members : List (String × Json)) : Option Docker :=
  if eachOnce keys members then (keys.mapM (Fields.get? members)).bind ofItems? else none

end Docker

namespace Entry

/-- The entry that an object is: a record of the first format whose shape it has. -/
def ofFields? (fields : Fields) : Option Entry :=
  (Pino.ofMembers? fields).map .pino <|>
  (Winston.ofMembers? fields).map .winston <|>
  (Loki.ofMembers? fields).map .loki <|>
  (Promtail.ofMembers? fields).map .promtail <|>
  (Docker.ofMembers? fields).map .docker

/-- The entry that a JSON value is. -/
def classify : Json → Entry
  | .object fields => (ofFields? fields).getD (.unknownJson (.object fields))
  | v => .unknownJson v

end Entry

end Logbook
