import Logbook.File
import Logbook.Json.Draft

/-!
# Settings

What can be set of the keyword index and of free-text search. Settings are given as a JSON object
that may leave out any of them, or as a list of their values in order that may stop early; what is
left out keeps its default. Members that are no setting are passed over.
-/

namespace Logbook

/-- The settings of a store. -/
structure Settings where
  /-- The keywords of a message that are indexed. -/
  keywordLimit : Nat := 10
  /-- The length of the shortest keyword. -/
  minKeywordLength : Nat := 3
  /-- Whether words may differ from what is looked for by one edit. -/
  fuzzy : Bool := true
  /-- The length of the shortest word that may differ. -/
  fuzzyMinLength : Nat := 3
  deriving DecidableEq, Inhabited

namespace Settings

/-- The number that a draft gives. -/
def natural? : Draft → Option Nat
  | .number (some v) => v.unsigned?
  | _ => none

/-- The truth value that a draft gives. -/
def flag? : Draft → Option Bool
  | .bool b => some b
  | _ => none

/-- The names of the settings, in order. -/
def names : List String :=
  ["keyword_limit", "min_keyword_len", "fuzzy", "fuzzy_min_word_len"]

/-- The settings with one of them set. -/
def set? (s : Settings) (name : String) (d : Draft) : Option Settings :=
  match name with
  | "keyword_limit" => (natural? d).map fun n => { s with keywordLimit := n }
  | "min_keyword_len" => (natural? d).map fun n => { s with minKeywordLength := n }
  | "fuzzy" => (flag? d).map fun b => { s with fuzzy := b }
  | "fuzzy_min_word_len" => (natural? d).map fun n => { s with fuzzyMinLength := n }
  | _ => some s

/-- The settings that members give, each at most once. -/
def ofMembers? (members : List (String × Draft)) : Option Settings :=
  if names.all fun name => (members.filter (·.1 = name)).length ≤ 1 then
    members.foldlM (fun s (name, d) => s.set? name d) {}
  else none

/-- The settings that a list gives, in order. -/
def ofItems? (items : List Draft) : Option Settings :=
  if items.length ≤ names.length then ofMembers? (names.zip items) else none

/-- The settings that a draft gives. -/
def ofDraft? : Draft → Option Settings
  | .object members => (Draft.keyed? members).bind ofMembers?
  | .array items => ofItems? items
  | _ => none

/-- The settings that a JSON text gives. -/
def ofText? (s : String) : Option Settings :=
  (Draft.ofText? s.toList).bind ofDraft?

/-- Why settings cannot be taken from a file. -/
inductive Fault where
  /-- The file cannot be read. -/
  | file (fault : FileFault)
  /-- Its text gives no settings. -/
  | malformed
  deriving DecidableEq

/-- The settings in a file. -/
def ofFile (f : Finding) : Except Fault Settings := do
  match ofText? (← f.text.mapError .file) with
  | some s => return s
  | none => throw .malformed

/-- The settings in one line. -/
def shown (s : Settings) : String :=
  "LogConfig: keyword_limit " ++ toString s.keywordLimit ++
    " min_keyword_len " ++ toString s.minKeywordLength ++
    " fuzzy:" ++ (if s.fuzzy then "true" else "false") ++
    " fuzzy_min_word_len " ++ toString s.fuzzyMinLength

end Settings

end Logbook
