import Logbook.Entry.Shape
import Logbook.Json.Draft

/-!
# Tagged entries

An entry is handed on as a JSON value that names its kind next to its payload: an object with the
members `kind` and `entry`, or a list of the two. The kind is a text, or an object that has it for
its only key. Formats without extra members may also give their values as a list, and pass over
members that they do not name. `Entry.ofJson?` reads such a value.

`Entry.ofTagged?` reads a text. Nothing is asked there of what is passed over, except in a payload
that stands before its kind: it has to be a value as a whole, since it cannot be told yet what of it
will be needed.
-/

namespace Logbook

namespace Draft

/-- The values of the members under the given keys, inside which `room` containers may nest. -/
def namedIn? (room : Nat) (keys : List String) (members : List (Option String × Draft)) :
    Option (List (String × Json)) := do
  let named := (← keyed? members).filter fun (key, _) => keys.contains key
  membersIn? room (named.map fun (key, d) => (some key, d))

end Draft

namespace Kind

/-- The kind that a JSON value names. -/
def ofJson? : Json → Option Kind
  | .string s => ofName? s
  | .object [(key, .null)] => ofName? key
  | _ => none

/-- The kind that a draft names. -/
def ofDraft? : Draft → Option Kind
  | .string s => s.bind ofName?
  | .object [(key, .null)] => key.bind ofName?
  | _ => none

/-- The members that a format names. -/
def keys : Kind → List String
  | .pino => Pino.keys
  | .winston => Winston.keys
  | .loki => Loki.keys
  | .promtail => Promtail.keys
  | .docker => Docker.keys
  | .text => ["line"]
  | .unknownJson => []

/-- Whether a format passes over the members that it does not name. -/
def isClosed : Kind → Bool
  | .loki | .docker | .text => true
  | .pino | .winston | .promtail | .unknownJson => false

end Kind

namespace Entry

open Draft

/-- The entry of a kind with a payload, whose members are those that were written. -/
def ofPayload? : Kind → Json → Option Entry
  | .unknownJson, v => some (.unknownJson v)
  | .pino, .object members => (Pino.ofMembers? members).map .pino
  | .winston, .object members => (Winston.ofMembers? members).map .winston
  | .promtail, .object members => (Promtail.ofMembers? members).map .promtail
  | .loki, .object members => (Loki.ofMembers? members).map .loki
  | .loki, .array items => (Loki.ofItems? items).map .loki
  | .docker, .object members => (Docker.ofMembers? members).map .docker
  | .docker, .array items => (Docker.ofItems? items).map .docker
  | .text, .object members =>
    if eachOnce (Kind.keys .text) members then
      ((Fields.get? members "line").bind Json.string?).map .text
    else none
  | .text, .array [.string line] => some (.text line)
  | _, _ => none

/-- The entry that a JSON value gives. -/
def ofJson? : Json → Option Entry
  | .object members =>
    (Fields.get? members "kind").bind fun kind => (Fields.get? members "entry").bind fun payload =>
      (Kind.ofJson? kind).bind (ofPayload? · payload)
  | .array [kind, payload] => (Kind.ofJson? kind).bind (ofPayload? · payload)
  | _ => none

/-- What a kind needs of a payload inside which `room` containers may nest, itself included. -/
def payloadIn? (room : Nat) (kind : Kind) (payload : Draft) : Option Json :=
  match kind, payload with
  | .unknownJson, d => valueIn? room d
  | kind, .object members =>
    (if kind.isClosed then namedIn? (room - 1) kind.keys members
      else membersIn? (room - 1) members).map .object
  | _, .array items => (itemsIn? (room - 1) items).map .array
  | _, _ => none

/-- The containers that may nest inside a tagged entry. -/
def payloadNesting : Nat :=
  maxNesting - 1

/-- The entry that the members `kind` and `entry` of an object give, each written once. -/
def ofTags? : List (String × Draft) → Option Entry
  | [("kind", kind), ("entry", payload)] =>
    (Kind.ofDraft? kind).bind fun kind =>
      (payloadIn? payloadNesting kind payload).bind (ofPayload? kind)
  | [("entry", payload), ("kind", kind)] =>
    (Kind.ofDraft? kind).bind fun kind => (valueIn? payloadNesting payload).bind fun _ =>
      (payloadIn? payloadNesting kind payload).bind (ofPayload? kind)
  | _ => none

/-- The entry that a draft gives. -/
def ofDraft? : Draft → Option Entry
  | .object members =>
    (keyed? members).bind fun members =>
      ofTags? (members.filter fun (key, _) => key = "kind" || key = "entry")
  | .array [kind, payload] => ofTags? [("kind", kind), ("entry", payload)]
  | _ => none

/-- The entry that a tagged text gives. -/
def ofTagged? (s : String) : Option Entry :=
  (Draft.ofText? s.toList).bind ofDraft?

end Entry

end Logbook
