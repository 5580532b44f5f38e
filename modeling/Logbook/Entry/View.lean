import Logbook.Entry.Basic
import Logbook.Json.Text
import Logbook.Text.Case
import Logbook.Time.Instant

/-!
# Entries of every format alike

What every entry has, whatever its format: a level, an environment, a message, perhaps an instant,
and perhaps what it tells of a request. Each is told by a rule for the format; what cannot be told
is unknown or absent. The *search text* of an entry (`Entry.searchText`) is what free text is looked
for in: the message, the names of what is known of the entry, and a few more words, in small
letters.

Indexes and the fields of entries are both made from these functions, so that they agree.
-/

namespace Logbook

/-- What an entry tells of a request and its answer. -/
structure Http where
  /-- The method of the request. -/
  method : Option String
  /-- The address asked for. -/
  url : Option String
  /-- The status of the answer. -/
  status : Option Nat
  /-- The time that the answer took, in milliseconds. -/
  responseTime : Option Double

/-- The value of the first word of the form `key=value` in a text, without quotes and commas around
    it. The case of ASCII letters in the key does not count. -/
def embedded? (text : List Char) (key : String) : Option String :=
  (Text.words text).findSome? fun word =>
    (Text.cut? '=' word).bind fun (k, v) =>
      if Text.asciiLower k = Text.asciiLower key.toList ∧ v ≠ [] then
        some (String.ofList (Text.strip (fun c => c = '"' || c = '\'' || c = ',' || c = ';') v))
      else none

namespace Fields

/-- The text under the first of the keys that has a value, if it is a text. -/
def firstText? (fields : Fields) (keys : List String) : Option String :=
  (fields.first? keys).bind Json.string?

end Fields

namespace Entry

/-- The members that give the level, in the order in which they are asked. -/
def levelKeys : List String :=
  ["level", "severity", "lvl"]

/-- The members and embedded words that give the environment. -/
def environmentKeys : List String :=
  ["environment", "env"]

/-- The members that give the time. -/
def timestampKeys : List String :=
  ["timestamp", "time", "ts", "@timestamp"]

/-- The members that give the message. -/
def messageKeys : List String :=
  ["message", "msg", "line", "log"]

/-! ## Level -/

/-- The small form of a character's capital, where the capital consists of ASCII letters. -/
def capitalKey (c : Char) : List Char :=
  match c.toNat with
  | 0xDF => ['s', 's']
  | 0x131 => ['i']
  | 0x17F => ['s']
  | 0xFB00 => ['f', 'f']
  | 0xFB01 => ['f', 'i']
  | 0xFB02 => ['f', 'l']
  | 0xFB03 => ['f', 'f', 'i']
  | 0xFB04 => ['f', 'f', 'l']
  | 0xFB05 | 0xFB06 => ['s', 't']
  | _ => [c]

/-- The level that a line of text begins with, perhaps in brackets or before a colon. Its letters
    count as their capitals. -/
def leadingLevel (line : List Char) : Level :=
  match Text.words line with
  | [] => .unknown
  | word :: _ =>
    .ofAlias <| String.ofList <|
      (Text.strip (fun c => c = '[' || c = ']' || c = ':') word).flatMap capitalKey

/-- The level of a stream, if the line does not give one. -/
def streamLevel : String → Level
  | "stderr" => .error
  | "stdout" => .info
  | _ => .unknown

/-- The level that a member gives, by its code or by its name. -/
def memberLevel : Json → Level
  | .string s => .ofAlias s
  | v => match v.unsigned? with
    | some code => .ofCode code
    | none => .unknown

/-- The level of an entry. -/
def level : Entry → Level
  | .pino r => .ofCode r.level
  | .winston r => .ofAlias r.level
  | .promtail r => .ofAlias r.level
  | .loki r => ((r.labels.firstText? levelKeys).map Level.ofAlias).getD .unknown
  | .docker r =>
    ((embedded? r.log.toList "level").bind Level.ofAlias?).getD (streamLevel r.stream)
  | .unknownJson v =>
    ((v.fields?.bind (·.first? levelKeys)).map memberLevel).getD .unknown
  | .text line => leadingLevel line.toList

/-! ## Environment -/

/-- The environment that a text names. -/
def embeddedEnvironment? (text : String) : Option String :=
  environmentKeys.findSome? (embedded? text.toList)

/-- The environment that details name. -/
def detailsEnvironment? (details : Option Json) : Option String :=
  (details.bind Json.fields?).bind (·.firstText? environmentKeys)

/-- The environment that an entry names. -/
def namedEnvironment? : Entry → Option String
  | .pino r => r.extra.firstText? environmentKeys <|> detailsEnvironment? r.details
  | .winston r => r.extra.firstText? environmentKeys <|> detailsEnvironment? r.details
  | .loki r => r.labels.firstText? environmentKeys
  | .promtail r => r.extra.firstText? environmentKeys
  | .docker r => embeddedEnvironment? r.log
  | .unknownJson v => v.fields?.bind (·.firstText? environmentKeys)
  | .text line => embeddedEnvironment? line

/-- The environment of an entry. -/
def environment (e : Entry) : Environment :=
  (e.namedEnvironment?.bind Environment.ofAlias?).getD .unknown

/-! ## Time -/

/-- The instant that a member gives, in milliseconds or as written. -/
def memberTime? : Json → Option Int
  | .string s => Instant.ofText? s
  | v => v.signed?

/-- The instant in one of the first three words of a line of text, perhaps in brackets. -/
def leadingTime? (line : List Char) : Option Int :=
  ((Text.words line).take 3).findSome? fun word =>
    Instant.ofText? (String.ofList (Text.strip (fun c => c = '[' || c = ']') word))

/-- The instant of an entry. -/
def timestamp? : Entry → Option Int
  | .pino r => some r.time
  | .winston r => Instant.ofText? r.timestamp
  | .loki r => Instant.ofText? r.ts
  | .promtail r => Instant.ofText? r.ts
  | .docker r => Instant.ofText? r.time
  | .unknownJson v => (v.fields?.bind (·.first? timestampKeys)).bind memberTime?
  | .text line => leadingTime? line.toList

/-! ## Message -/

/-- The message of an entry. -/
def message : Entry → String
  | .pino r => r.msg
  | .winston r => r.message
  | .loki r => r.line
  | .promtail r => r.message
  | .docker r => String.ofList (Text.stripEnd (fun c => c = '\n' || c = '\r') r.log.toList)
  | .unknownJson v =>
    (v.fields?.bind (·.firstText? messageKeys)).getD (String.ofList v.text)
  | .text line => line

/-! ## Requests -/

/-- What a request and its answer tell, if there is one of them. -/
def httpOf? (req res : Option Json) : Option Http :=
  if req.isNone && res.isNone then none
  else
    let get? (v : Option Json) (key : String) := v.bind (·.get? key)
    some {
      method := (get? req "method").bind Json.string?
      url := (get? req "url").bind Json.string?
      status := (get? res "statusCode").bind Json.unsigned?
      responseTime := (get? res "responseTimeMs").bind Json.double? }

/-- What an entry tells of a request. -/
def http? : Entry → Option Http
  | .pino r => httpOf? r.req r.res
  | _ => none

/-- The details of an entry. -/
def details? : Entry → Option Json
  | .pino r => r.details
  | .winston r => r.details
  | _ => none

/-! ## Search text -/

/-- Words of an entry that are searched next to its message. -/
def descriptors : Entry → List String
  | .pino r =>
    r.hostname.toList ++ r.name.toList ++
      match httpOf? r.req r.res with
      | none => []
      | some http => http.method.toList ++ http.url.toList ++
        (http.status.map fun n => String.ofList (Nat.toDigits 10 n)).toList
  | .loki r => r.labels.filterMap fun (_, v) => v.string?
  | .docker r => [r.stream]
  | _ => []

/-- The text that free text is looked for in. -/
def searchText (e : Entry) : List Char :=
  let parts := [e.message, e.kind.name, e.level.name, e.environment.name] ++ e.descriptors
  Text.lower (Text.stripEnd Text.isBlank (parts.flatMap fun s => s.toList ++ [' ']))

/-- What every entry has, as a JSON value to be written. -/
def view (e : Entry) : Json :=
  let number : Double → Json
    | .finite negative m => .real negative m
    | _ => .null
  let http (h : Http) : Json := .object <|
    member? "method" (h.method.map .string) ++ member? "url" (h.url.map .string) ++
      member? "status_code" (h.status.map fun n => .integer n) ++
      member? "response_time_ms" (h.responseTime.map number)
  .object <|
    [("kind", .string e.kind.name), ("level", .string e.level.name),
      ("environment", .string e.environment.name), ("message", .string e.message),
      ("timestamp", (e.timestamp?.map .integer).getD .null)] ++
      member? "http" (e.http?.map http) ++ member? "meta" e.details?

end Entry

end Logbook
