import Logbook.Field.Lookup
import Logbook.Proofs.Number.Digits
import Logbook.Proofs.Text.Finding
import Logbook.Proofs.Text.Trimming

/-!
# Paths into entries

The values inside of an entry are reached from the outside by steps: the key of a member of an
object, or the position of an item in a list (`Json.Leads`, `Entry.Leads`). Such steps are written
as a name of a field, with points between them (`PathStep.name`), and the name leads to where the
steps do (`Entry.scalar_found_by_path`), unless it is one that all formats share.

Three things have to go together. The name is taken apart into the steps that it was put together
from, for no step has a point or blanks around it; no format has a name of its own that begins with
one of these steps (`Entry.formatField?_of_head`); and step by step a value is looked up where the
steps lead (`Json.Leads.at?_eq`).
-/

namespace Logbook

open Text

/-- A step down into a value. -/
inductive PathStep where
  /-- To the member of an object under a key. -/
  | key (k : String)
  /-- To the item of a list at a position, counted from 0. -/
  | position (i : Nat)

namespace PathStep

/-- A step as it is written in a path. -/
def text : PathStep → List Char
  | .key k => k.toList
  | .position i => Nat.toDigits 10 i

/-- The steps of a path, as the name of a field. -/
def name (steps : List PathStep) : String :=
  String.ofList (['.'].intercalate (steps.map text))

/-- Whether a step can be told from those around it: it is not empty, and has no points in it and
    no blanks around it. -/
structure IsPlain (step : PathStep) : Prop where
  ne_nil : step.text ≠ []
  no_point : '.' ∉ step.text
  head : ∀ c ∈ step.text.head?, ¬isBlank c
  last : ∀ c ∈ step.text.getLast?, ¬isBlank c

instance (step : PathStep) : Decidable step.IsPlain :=
  decidable_of_iff (step.text ≠ [] ∧ '.' ∉ step.text ∧ step.text.head?.all (! isBlank ·) ∧
    step.text.getLast?.all (! isBlank ·)) <| by
    simp only [Option.all_eq_true, Bool.not_eq_true', ← Bool.not_eq_true]
    exact ⟨fun ⟨hne, hpoint, hhead, hlast⟩ => ⟨hne, hpoint, hhead, hlast⟩,
      fun h => ⟨h.ne_nil, h.no_point, h.head, h.last⟩⟩

end PathStep

/-- Whether a value is a text, a number or a truth value. -/
def Json.IsScalar : Json → Prop
  | .null | .array _ | .object _ => False
  | .bool _ | .integer _ | .real _ _ | .string _ => True

/-- Steps lead from a value down to a value. The items of a list are no more than 64 bits can
    count. -/
inductive Json.Leads : Json → List PathStep → Json → Prop
  | here (v : Json) : Leads v [] v
  | member {fields : Fields} {k : String} {v leaf : Json} {steps : List PathStep}
    (h : fields.get? k = some v) (hrest : Leads v steps leaf) :
    Leads (.object fields) (.key k :: steps) leaf
  | item {items : List Json} {i : Nat} {v leaf : Json} {steps : List PathStep}
    (hcount : items.length ≤ 0x10000000000000000) (h : items[i]? = some v)
    (hrest : Leads v steps leaf) : Leads (.array items) (.position i :: steps) leaf

/-- Steps lead from an entry down to a value: into the request, the answer or the details, into the
    labels, or into a value of no format. -/
inductive Entry.Leads : Entry → List PathStep → Json → Prop
  | request {r : Pino} {v leaf : Json} {steps : List PathStep} (h : r.req = some v)
    (hrest : v.Leads steps leaf) : Leads (.pino r) (.key "req" :: steps) leaf
  | response {r : Pino} {v leaf : Json} {steps : List PathStep} (h : r.res = some v)
    (hrest : v.Leads steps leaf) : Leads (.pino r) (.key "res" :: steps) leaf
  | pinoDetails {r : Pino} {v leaf : Json} {steps : List PathStep} (h : r.details = some v)
    (hrest : v.Leads steps leaf) : Leads (.pino r) (.key "meta" :: steps) leaf
  | winstonDetails {r : Winston} {v leaf : Json} {steps : List PathStep} (h : r.details = some v)
    (hrest : v.Leads steps leaf) : Leads (.winston r) (.key "meta" :: steps) leaf
  | labels {r : Loki} {leaf : Json} {steps : List PathStep}
    (hrest : (Json.object r.labels).Leads steps leaf) :
    Leads (.loki r) (.key "labels" :: steps) leaf
  | value {v leaf : Json} {steps : List PathStep} (h : v.Leads steps leaf) :
    Leads (.unknownJson v) steps leaf

/-! ## Texts with points between them -/

namespace Text

theorem exists_of_mem_head?_intercalate {c d : Char} {texts : List (List Char)}
    (hne : ∀ t ∈ texts, t ≠ []) (h : d ∈ ([c].intercalate texts).head?) :
    ∃ t ∈ texts, d ∈ t.head? := by
  cases texts with
  | nil => cases h
  | cons t rest =>
    refine ⟨t, List.mem_cons_self, ?_⟩
    obtain ⟨b, bs, rfl⟩ := List.exists_cons_of_ne_nil (hne t List.mem_cons_self)
    cases rest with
    | nil => simpa using h
    | cons u rest => simpa [List.intercalate_cons_cons] using h

theorem exists_of_mem_getLast?_intercalate {c d : Char} {texts : List (List Char)}
    (hne : ∀ t ∈ texts, t ≠ []) (h : d ∈ ([c].intercalate texts).getLast?) :
    ∃ t ∈ texts, d ∈ t.getLast? := by
  induction texts with
  | nil => cases h
  | cons t rest ih =>
    cases rest with
    | nil => exact ⟨t, List.mem_cons_self, by simpa using h⟩
    | cons u rest =>
      -- What is joined behind is not empty, so that the end is there.
      have hrest : [c].intercalate (u :: rest) ≠ [] := by
        cases rest with
        | nil => simpa using hne u (by simp)
        | cons w rest => simp [List.intercalate_cons_cons]
      rw [List.intercalate_cons_cons, List.getLast?_append,
        List.getLast?_eq_some_getLast hrest, Option.some_or,
        ← List.getLast?_eq_some_getLast hrest] at h
      obtain ⟨t', ht', hd⟩ := ih (fun t' ht' => hne t' (List.mem_cons_of_mem _ ht')) h
      exact ⟨t', List.mem_cons_of_mem _ ht', hd⟩

end Text

/-! ## Names of paths -/

namespace PathStep

theorem isPlain_position (i : Nat) : (PathStep.position i).IsPlain where
  ne_nil := Nat.toDigits_ne_nil
  no_point h := absurd (isDigit_of_mem_toDigits h) (by decide)
  head _ hc := not_isBlank_of_isDigit (isDigit_of_mem_toDigits (List.mem_of_mem_head? hc))
  last _ hc := not_isBlank_of_isDigit (isDigit_of_mem_toDigits (List.mem_of_mem_getLast? hc))

variable {steps : List PathStep}

theorem toList_name (steps : List PathStep) :
    (name steps).toList = ['.'].intercalate (steps.map text) :=
  String.toList_ofList

theorem splitOn_name (hne : steps ≠ []) (h : ∀ step ∈ steps, step.IsPlain) :
    (name steps).toList.splitOn '.' = steps.map text := by
  rw [toList_name]
  refine List.splitOn_intercalate '.' (fun t ht => ?_) (mt List.map_eq_nil_iff.1 hne)
  obtain ⟨step, hstep, rfl⟩ := List.mem_map.1 ht
  exact (h step hstep).no_point

theorem trim_name (h : ∀ step ∈ steps, step.IsPlain) :
    trim (name steps).toList = (name steps).toList := by
  have hne : ∀ t ∈ steps.map text, t ≠ [] := by
    intro t ht
    obtain ⟨step, hstep, rfl⟩ := List.mem_map.1 ht
    exact (h step hstep).ne_nil
  rw [toList_name]
  refine trim_eq_self (fun c hc => ?_) fun c hc => ?_
  · obtain ⟨t, ht, hc⟩ := exists_of_mem_head?_intercalate hne hc
    obtain ⟨step, hstep, rfl⟩ := List.mem_map.1 ht
    exact (h step hstep).head c hc
  · obtain ⟨t, ht, hc⟩ := exists_of_mem_getLast?_intercalate hne hc
    obtain ⟨step, hstep, rfl⟩ := List.mem_map.1 ht
    exact (h step hstep).last c hc

theorem path?_name (hne : steps ≠ []) (h : ∀ step ∈ steps, step.IsPlain) :
    Entry.path? (name steps).toList = some (steps.map fun step => String.ofList step.text) := by
  have hnone : (steps.map text).any (·.isEmpty) = false := by
    rw [List.any_map, List.any_eq_false]
    exact fun step hstep hempty => (h step hstep).ne_nil (List.isEmpty_iff.1 hempty)
  rw [Entry.path?, splitOn_name hne h]
  simp [hnone]

end PathStep

/-! ## Looking up -/

namespace Json

variable {v leaf : Json} {steps : List PathStep}

theorem Leads.at?_eq (h : v.Leads steps leaf) :
    v.at? (steps.map fun step => String.ofList step.text) = some leaf := by
  induction h with
  | here v => cases v <;> rfl
  | member h _ ih =>
    rw [List.map_cons, Json.at?, PathStep.text, String.ofList_toList, h, Option.bind_some, ih]
  | item hcount h _ ih =>
    have hlt := Nat.lt_of_lt_of_le (List.getElem?_eq_some_iff.1 h).1 hcount
    rw [List.map_cons, Json.at?, PathStep.text, String.toList_ofList, natural64?_toDigits hlt,
      Option.bind_some, h, Option.bind_some, ih]

end Json

namespace Entry

variable {e : Entry} {leaf : Json} {steps : List PathStep}

/-- The names that all formats share. -/
def sharedNames : List String :=
  ["kind", "level", "environment", "env", "message", "msg", "timestamp", "method", "url",
    "statusCode", "status", "responseTimeMs"]

theorem mem_sharedNames_of_commonField? {name : String} {value : Option FieldValue}
    (h : e.commonField? name = some value) : name ∈ sharedNames := by
  unfold commonField? at h
  dsimp only at h
  split at h <;> cases h
  all_goals decide

theorem commonField?_of_not_mem {name : String} (h : name ∉ sharedNames) (e : Entry) :
    e.commonField? name = none :=
  Option.eq_none_iff_forall_ne_some.2 fun _ hvalue => h (mem_sharedNames_of_commonField? hvalue)

/-- The first step into the members that a path of a format leads through. -/
def isMemberStep (first : List Char) : Bool :=
  ["req", "res", "meta", "labels"].contains (String.ofList first)

/-- No format has a name of its own that is a path through these members. -/
theorem not_isMemberStep_of_formatField? {name : String} {value : Option FieldValue}
    (h : e.formatField? name = some value) :
    ¬(name.toList.splitOn '.').head?.any isMemberStep := by
  unfold formatField? at h
  split at h <;> cases h
  all_goals decide

theorem formatField?_of_head {name : String} (h : (name.toList.splitOn '.').head?.any isMemberStep)
    (e : Entry) : e.formatField? name = none :=
  Option.eq_none_iff_forall_ne_some.2 fun _ hvalue => not_isMemberStep_of_formatField? hvalue h

theorem Leads.at?_eq (h : e.Leads steps leaf) (hleaf : leaf.IsScalar) :
    e.at? (steps.map fun step => String.ofList step.text) = some leaf := by
  cases h with
  | request h hrest | response h hrest | pinoDetails h hrest | winstonDetails h hrest =>
    rw [List.map_cons, PathStep.text, String.ofList_toList, at?, h, Option.bind_some, hrest.at?_eq]
  | labels hrest =>
    cases hrest with
    | here => exact hleaf.elim
    | member h hrest =>
      rw [List.map_cons, List.map_cons, PathStep.text, String.ofList_toList, at?, Fields.at?,
        PathStep.text, String.ofList_toList, h, Option.bind_some, hrest.at?_eq]
  | value h => exact h.at?_eq

/-- The first step into a member that a format names. -/
theorem Leads.formatField? (h : e.Leads steps leaf) (hne : steps ≠ [])
    (hplain : ∀ step ∈ steps, step.IsPlain) : e.formatField? (PathStep.name steps) = none := by
  cases h with
  | value h => rfl
  | _ =>
    refine formatField?_of_head ?_ _
    rw [PathStep.splitOn_name hne hplain, List.map_cons, List.head?_cons, Option.any_some,
      PathStep.text, isMemberStep, String.ofList_toList]
    decide

theorem exists_ofJson? (h : leaf.IsScalar) : ∃ value, FieldValue.ofJson? leaf = some value := by
  cases leaf with
  | null | array _ | object _ => exact h.elim
  | bool _ | integer _ | real _ _ | string _ => exact ⟨_, rfl⟩

/-- Every text, number or truth value inside of an entry is found under the name of the path to it,
    if the steps of the path can be told apart and formats do not share its name. -/
theorem scalar_found_by_path (h : e.Leads steps leaf) (hleaf : leaf.IsScalar) (hne : steps ≠ [])
    (hplain : ∀ k, .key k ∈ steps → (PathStep.key k).IsPlain)
    (hname : PathStep.name steps ∉ sharedNames) :
    ∃ value, FieldValue.ofJson? leaf = some value ∧
      e.field? (PathStep.name steps) = some value := by
  have hsteps : ∀ step ∈ steps, step.IsPlain := by
    intro step hstep
    cases step with
    | key k => exact hplain k hstep
    | position i => exact PathStep.isPlain_position i
  obtain ⟨value, hvalue⟩ := exists_ofJson? hleaf
  refine ⟨value, hvalue, ?_⟩
  rw [field?, PathStep.trim_name hsteps, String.ofList_toList, commonField?_of_not_mem hname,
    h.formatField? hne hsteps, PathStep.path?_name hne hsteps, Option.bind_some, h.at?_eq hleaf,
    Option.bind_some, hvalue]

/-- Through two objects and a list. -/
theorem scalar_found_by_path_in_request :
    let leaf : Json := .integer 7
    let items : List Json := [.string "a", .object [("id", leaf)]]
    let r : Pino := ⟨0, 30, "", none, none, none, some (.object [("headers", .array items)]), none,
      none, []⟩
    let steps : List PathStep := [.key "req", .key "headers", .position 1, .key "id"]
    PathStep.name steps = "req.headers.1.id" ∧ (Entry.pino r).Leads steps leaf ∧
      PathStep.name steps ∉ sharedNames ∧
      (Entry.pino r).field? "req.headers.1.id" = some (.number (.ofInt 7)) := by
  intro leaf items r steps
  have hpath : PathStep.name steps = "req.headers.1.id" := by decide +kernel
  have hleads : (Entry.pino r).Leads steps leaf :=
    .request rfl (.member rfl (.item (by decide) rfl (.member rfl (.here leaf))))
  have hplain : ∀ step ∈ steps, step.IsPlain := by decide +kernel
  have hname : PathStep.name steps ∉ sharedNames := by rw [hpath]; decide
  obtain ⟨value, hvalue, hfield⟩ := scalar_found_by_path hleads trivial nofun
    (fun k hk => hplain _ hk) hname
  obtain rfl : FieldValue.number (.ofInt 7) = value := Option.some.inj hvalue
  exact ⟨hpath, hleads, hname, hpath ▸ hfield⟩

end Entry

end Logbook
