import Logbook.Entry.Tagged
import Logbook.Proofs.Json.WellFormed

/-!
# Records and members

A record is read from the members of an object by its format. What is read is told by the values
that are given, a `null` counting as none (`Fields.given?`): they are the ones that the record has
for the members that its format names (`Entry.named`), and its other members (`Entry.extra`) are the
rest (`Entry.Fits`, `Entry.ofPayload?_object_iff`).
-/

namespace Logbook

/-! ## Values that are given -/

namespace Json

/-- Whether the value is `null`. -/
def isNull : Json → Bool
  | .null => true
  | _ => false

theorem eq_null {v : Json} (h : v.isNull = true) : v = .null := by
  cases v <;> first | rfl | cases h

/-- What a reader gives, in the form in which it is said of numbers as well. -/
theorem string?_eq_some_iff (v : Json) (s : String) : v.string? = some s ↔ v = .string s ∧ True := by
  cases v with
  | string s' => rw [string?, Option.some_inj, Json.string.injEq, and_true]
  | _ => exact ⟨nofun, fun h => nomatch h.1⟩

theorem signed?_eq_some_iff (v : Json) (n : Int) :
    v.signed? = some n ↔ v = .integer n ∧ -0x8000000000000000 ≤ n ∧ n < 0x8000000000000000 := by
  cases v with
  | integer m =>
    rw [signed?, Option.ite_none_right_eq_some, Option.some_inj, Json.integer.injEq]
    omega
  | _ => exact ⟨nofun, fun h => nomatch h.1⟩

theorem unsigned?_eq_some_iff (v : Json) (n : Nat) :
    v.unsigned? = some n ↔ v = .integer n ∧ n < 0x10000000000000000 := by
  cases v with
  | integer m =>
    rw [unsigned?, Option.ite_none_right_eq_some, Option.some_inj, Json.integer.injEq]
    omega
  | _ => exact ⟨nofun, fun h => nomatch h.1⟩

end Json

namespace Fields

variable {members : Fields} {key : String} {α : Type} {read : Json → Option α} {write : α → Json}
  {p : α → Prop}

/-- The value under a key, unless it is `null`. -/
def given? (members : Fields) (key : String) : Option Json :=
  (members.get? key).filter (!·.isNull)

theorem given?_eq_some_iff {v : Json} :
    members.given? key = some v ↔ members.get? key = some v ∧ v.isNull = false := by
  rw [given?, Option.filter_eq_some_iff, Bool.not_eq_true']

theorem optional?_get? (read : Json → Option α) (members : Fields) (key : String) :
    optional? read (members.get? key) =
      match members.given? key with
      | none => some none
      | some v => (read v).map some := by
  rw [given?]
  cases members.get? key with
  | none => rfl
  | some v => cases v <;> rfl

/-- A member that a format requires is read from the value that is given. -/
theorem bind_get?_eq_some_iff (hread : ∀ v a, read v = some a ↔ v = write a ∧ p a)
    (hwrite : ∀ a, (write a).isNull = false) {a : α} :
    (members.get? key).bind read = some a ↔ members.given? key = some (write a) ∧ p a := by
  rw [given?_eq_some_iff, Option.bind_eq_some_iff]
  constructor
  · rintro ⟨v, hget, hv⟩
    obtain ⟨rfl, hp⟩ := (hread v a).1 hv
    exact ⟨⟨hget, hwrite a⟩, hp⟩
  · rintro ⟨⟨hget, -⟩, hp⟩
    exact ⟨write a, hget, (hread _ a).2 ⟨rfl, hp⟩⟩

/-- A member that may be absent is read from the value that is given, if there is one. -/
theorem optional?_get?_eq_some_iff (hread : ∀ v a, read v = some a ↔ v = write a ∧ p a)
    {x : Option α} :
    optional? read (members.get? key) = some x ↔
      members.given? key = x.map write ∧ ∀ a ∈ x, p a := by
  rw [optional?_get?]
  cases hgiven : members.given? key with
  | none => cases x <;> simp
  | some v =>
    cases x with
    | none => simp
    | some a => simp [hread]

theorem bind_signed?_eq_some_iff {n : Int} :
    (members.get? key).bind Json.signed? = some n ↔ members.given? key = some (.integer n) ∧
      -0x8000000000000000 ≤ n ∧ n < 0x8000000000000000 :=
  bind_get?_eq_some_iff Json.signed?_eq_some_iff fun _ => rfl

theorem bind_unsigned?_eq_some_iff {n : Nat} :
    (members.get? key).bind Json.unsigned? = some n ↔
      members.given? key = some (.integer n) ∧ n < 0x10000000000000000 :=
  bind_get?_eq_some_iff Json.unsigned?_eq_some_iff fun _ => rfl

theorem bind_string?_eq_some_iff {s : String} :
    (members.get? key).bind Json.string? = some s ↔ members.given? key = some (.string s) :=
  (bind_get?_eq_some_iff Json.string?_eq_some_iff fun _ => rfl).trans (and_true _).to_iff

theorem optional?_unsigned?_eq_some_iff {x : Option Nat} :
    optional? Json.unsigned? (members.get? key) = some x ↔
      members.given? key = x.map (fun n : Nat => .integer n) ∧
        ∀ n ∈ x, n < 0x10000000000000000 :=
  optional?_get?_eq_some_iff Json.unsigned?_eq_some_iff

theorem optional?_string?_eq_some_iff {x : Option String} :
    optional? Json.string? (members.get? key) = some x ↔ members.given? key = x.map .string :=
  (optional?_get?_eq_some_iff Json.string?_eq_some_iff).trans (and_iff_left fun _ _ => ⟨⟩)

theorem optional?_some_get?_eq_some_iff {x : Option Json} :
    optional? some (members.get? key) = some x ↔ members.given? key = x := by
  rw [optional?_get?]
  cases members.given? key with
  | none => exact Option.some_inj
  | some v => exact Option.some_inj

/-- A part of the value under a key is read from the value at once. -/
theorem bind_bind_get? {β : Type} (members : Fields) (key : String) (read : Json → Option α)
    (f : α → Option β) :
    ((members.get? key).bind fun v => (read v).bind f) = ((members.get? key).bind read).bind f :=
  (Option.bind_assoc _ _ _).symm

end Fields

namespace Entry

/-! ## The members of an entry -/

/-- The members that the format of an entry names, as far as the entry has values for them. -/
def named : Entry → List (String × Json)
  | .pino r =>
    [("time", .integer r.time), ("level", .integer r.level), ("msg", .string r.msg)] ++
      member? "pid" (r.pid.map fun n : Nat => .integer n) ++
      member? "hostname" (r.hostname.map .string) ++ member? "name" (r.name.map .string) ++
      member? "req" r.req ++ member? "res" r.res ++ member? "meta" r.details
  | .winston r =>
    [("timestamp", .string r.timestamp), ("level", .string r.level),
      ("message", .string r.message)] ++ member? "meta" r.details
  | .loki r => [("ts", .string r.ts), ("labels", .object r.labels), ("line", .string r.line)]
  | .promtail r =>
    [("ts", .string r.ts), ("level", .string r.level), ("message", .string r.message)]
  | .docker r => [("log", .string r.log), ("stream", .string r.stream), ("time", .string r.time)]
  | .unknownJson _ => []
  | .text line => [("line", .string line)]

/-- The members that the format of an entry does not name. -/
def extra : Entry → Fields
  | .pino r => r.extra
  | .winston r => r.extra
  | .promtail r => r.extra
  | .loki _ | .docker _ | .unknownJson _ | .text _ => []

/-- The entry with other extra members, if its format holds any. -/
def withExtra (extra : Fields) : Entry → Entry
  | .pino r => .pino { r with extra }
  | .winston r => .winston { r with extra }
  | .promtail r => .promtail { r with extra }
  | e => e

/-- The numbers of a record fit in 64 bits, with a sign or without. -/
def InRange : Entry → Prop
  | .pino r => (-0x8000000000000000 ≤ r.time ∧ r.time < 0x8000000000000000) ∧
    r.level < 0x10000000000000000 ∧ ∀ n ∈ r.pid, n < 0x10000000000000000
  | _ => True

/-- A record is what its format makes of these members. -/
structure Fits (e : Entry) (members : Fields) : Prop where
  /-- No member that the format names is repeated. -/
  once : eachOnce e.kind.keys members = true
  /-- What is given for the members that the format names is what the record has for them. -/
  given : ∀ key ∈ e.kind.keys, members.given? key = Fields.get? e.named key
  /-- The numbers are in range. -/
  inRange : e.InRange
  /-- The other members are kept, unless the format passes over them. -/
  extra : e.kind.isClosed = false → others e.kind.keys members = e.extra

variable {e : Entry} {members : Fields}

theorem fits_iff :
    e.Fits members ↔ eachOnce e.kind.keys members = true ∧
      (∀ key ∈ e.kind.keys, members.given? key = Fields.get? e.named key) ∧ e.InRange ∧
      (e.kind.isClosed = false → others e.kind.keys members = e.extra) :=
  ⟨fun ⟨once, given, inRange, extra⟩ => ⟨once, given, inRange, extra⟩,
    fun ⟨once, given, inRange, extra⟩ => ⟨once, given, inRange, extra⟩⟩

theorem payload_eq (h : e.kind ≠ .unknownJson) :
    e.payload = .object (e.named ++ e.extra) := by
  cases e with
  | unknownJson v => exact absurd rfl h
  | pino r =>
    obtain ⟨time, level, msg, pid, hostname, name, req, res, details, extra⟩ := r
    cases pid <;> rfl
  | _ => rfl

theorem named_withExtra (e : Entry) (extra : Fields) : (e.withExtra extra).named = e.named := by
  cases e <;> rfl

theorem kind_withExtra (e : Entry) (extra : Fields) : (e.withExtra extra).kind = e.kind := by
  cases e <;> rfl

theorem extra_withExtra (hclosed : e.kind.isClosed = false) (hkind : e.kind ≠ .unknownJson)
    (extra : Fields) : (e.withExtra extra).extra = extra := by
  cases e <;> first | rfl | exact absurd rfl hkind | cases hclosed

theorem inRange_withExtra (h : e.InRange) (extra : Fields) : (e.withExtra extra).InRange := by
  cases e <;> exact h

theorem get?_member? (key : String) (value : Option Json) (k : String) :
    Fields.get? (member? key value) k = if k = key then value else none := by
  cases value with
  | none => exact (ite_self none).symm
  | some v => exact Fields.get?_cons key v [] k

theorem keys_member?_sublist (key : String) (value : Option Json) :
    ((member? key value).map (·.1)).Sublist [key] := by
  cases value with
  | none => exact List.nil_sublist _
  | some v => exact List.Sublist.refl _

theorem keys_named_sublist (e : Entry) : (e.named.map (·.1)).Sublist e.kind.keys := by
  cases e with
  | pino r =>
    simp only [named, List.map_append]
    exact ((((((List.Sublist.refl ["time", "level", "msg"]).append
      (keys_member?_sublist _ _)).append (keys_member?_sublist _ _)).append
      (keys_member?_sublist _ _)).append (keys_member?_sublist _ _)).append
      (keys_member?_sublist _ _)).append (keys_member?_sublist _ _)
  | winston r =>
    simp only [named, List.map_append]
    exact (List.Sublist.refl ["timestamp", "level", "message"]).append (keys_member?_sublist _ _)
  | _ => exact List.Sublist.refl _

theorem nodup_keys (kind : Kind) : kind.keys.Nodup := by
  cases kind <;> decide

/-! ## Reading a record -/

theorem fits_pino_iff {r : Pino} : (Entry.pino r).Fits members ↔
    eachOnce Pino.keys members = true ∧
      (members.given? "time" = some (.integer r.time) ∧
        members.given? "level" = some (.integer r.level) ∧
        members.given? "msg" = some (.string r.msg) ∧
        members.given? "pid" = r.pid.map (fun n : Nat => .integer n) ∧
        members.given? "hostname" = r.hostname.map .string ∧
        members.given? "name" = r.name.map .string ∧
        members.given? "req" = r.req ∧ members.given? "res" = r.res ∧
        members.given? "meta" = r.details) ∧
      (Entry.pino r).InRange ∧ others Pino.keys members = r.extra := by
  simp [fits_iff, kind, Kind.keys, Pino.keys, named, Fields.get?_append, Fields.get?_cons,
    get?_member?, Kind.isClosed, extra]

theorem fits_winston_iff {r : Winston} : (Entry.winston r).Fits members ↔
    eachOnce Winston.keys members = true ∧
      (members.given? "timestamp" = some (.string r.timestamp) ∧
        members.given? "level" = some (.string r.level) ∧
        members.given? "message" = some (.string r.message) ∧
        members.given? "meta" = r.details) ∧
      others Winston.keys members = r.extra := by
  simp [fits_iff, kind, Kind.keys, Winston.keys, named, Fields.get?_cons, get?_member?, InRange,
    Kind.isClosed, extra]

theorem fits_loki_iff {r : Loki} : (Entry.loki r).Fits members ↔
    eachOnce Loki.keys members = true ∧ members.given? "ts" = some (.string r.ts) ∧
      members.given? "labels" = some (.object r.labels) ∧
      members.given? "line" = some (.string r.line) := by
  simp [fits_iff, kind, Kind.keys, Loki.keys, named, Fields.get?_cons, InRange, Kind.isClosed]

theorem fits_promtail_iff {r : Promtail} : (Entry.promtail r).Fits members ↔
    eachOnce Promtail.keys members = true ∧
      (members.given? "ts" = some (.string r.ts) ∧
        members.given? "level" = some (.string r.level) ∧
        members.given? "message" = some (.string r.message)) ∧
      others Promtail.keys members = r.extra := by
  simp [fits_iff, kind, Kind.keys, Promtail.keys, named, Fields.get?_cons, InRange,
    Kind.isClosed, extra]

theorem fits_docker_iff {r : Docker} : (Entry.docker r).Fits members ↔
    eachOnce Docker.keys members = true ∧ members.given? "log" = some (.string r.log) ∧
      members.given? "stream" = some (.string r.stream) ∧
      members.given? "time" = some (.string r.time) := by
  simp [fits_iff, kind, Kind.keys, Docker.keys, named, Fields.get?_cons, InRange, Kind.isClosed]

theorem fits_text_iff {line : String} : (Entry.text line).Fits members ↔
    eachOnce (Kind.keys .text) members = true ∧
      members.given? "line" = some (.string line) := by
  simp [fits_iff, kind, Kind.keys, named, Fields.get?_cons, InRange, Kind.isClosed]

end Entry

theorem Pino.ofMembers?_eq_some_iff {members : Fields} {r : Pino} :
    ofMembers? members = some r ↔ (Entry.pino r).Fits members := by
  rw [Entry.fits_pino_iff, ofMembers?, Option.ite_none_right_eq_some]
  -- Each member is read on its own, so that the chain of readers is a list of conditions.
  simp only [Option.bind_eq_bind, Fields.bind_bind_get?, Option.bind_eq_some_iff,
    Option.pure_def, Option.some_inj,
    ↓Fields.bind_signed?_eq_some_iff, ↓Fields.bind_unsigned?_eq_some_iff,
    ↓Fields.bind_string?_eq_some_iff, Fields.optional?_unsigned?_eq_some_iff,
    Fields.optional?_string?_eq_some_iff, Fields.optional?_some_get?_eq_some_iff]
  constructor
  · rintro ⟨honce, _, ⟨htime, hsigned⟩, _, ⟨hlevel, hunsigned⟩, _, hmsg, _, ⟨hpid, hpids⟩,
      _, hhostname, _, hname, _, hreq, _, hres, _, hmeta, rfl⟩
    exact ⟨honce, ⟨htime, hlevel, hmsg, hpid, hhostname, hname, hreq, hres, hmeta⟩,
      ⟨hsigned, hunsigned, hpids⟩, rfl⟩
  · rintro ⟨honce, ⟨htime, hlevel, hmsg, hpid, hhostname, hname, hreq, hres, hmeta⟩,
      ⟨hsigned, hunsigned, hpids⟩, hextra⟩
    exact ⟨honce, _, ⟨htime, hsigned⟩, _, ⟨hlevel, hunsigned⟩, _, hmsg, _, ⟨hpid, hpids⟩,
      _, hhostname, _, hname, _, hreq, _, hres, _, hmeta, congrArg _ hextra⟩

theorem Winston.ofMembers?_eq_some_iff {members : Fields} {r : Winston} :
    ofMembers? members = some r ↔ (Entry.winston r).Fits members := by
  rw [Entry.fits_winston_iff, ofMembers?, Option.ite_none_right_eq_some]
  simp only [Option.bind_eq_bind, Fields.bind_bind_get?, Option.bind_eq_some_iff,
    Option.pure_def, Option.some_inj,
    ↓Fields.bind_string?_eq_some_iff, Fields.optional?_some_get?_eq_some_iff]
  constructor
  · rintro ⟨honce, _, htimestamp, _, hlevel, _, hmessage, _, hmeta, rfl⟩
    exact ⟨honce, ⟨htimestamp, hlevel, hmessage, hmeta⟩, rfl⟩
  · rintro ⟨honce, ⟨htimestamp, hlevel, hmessage, hmeta⟩, hextra⟩
    exact ⟨honce, _, htimestamp, _, hlevel, _, hmessage, _, hmeta, congrArg _ hextra⟩

theorem Promtail.ofMembers?_eq_some_iff {members : Fields} {r : Promtail} :
    ofMembers? members = some r ↔ (Entry.promtail r).Fits members := by
  rw [Entry.fits_promtail_iff, ofMembers?, Option.ite_none_right_eq_some]
  simp only [Option.bind_eq_bind, Fields.bind_bind_get?, Option.bind_eq_some_iff,
    Option.pure_def, Option.some_inj, ↓Fields.bind_string?_eq_some_iff]
  constructor
  · rintro ⟨honce, _, hts, _, hlevel, _, hmessage, rfl⟩
    exact ⟨honce, ⟨hts, hlevel, hmessage⟩, rfl⟩
  · rintro ⟨honce, ⟨hts, hlevel, hmessage⟩, hextra⟩
    exact ⟨honce, _, hts, _, hlevel, _, hmessage, congrArg _ hextra⟩

theorem Loki.ofItems?_eq_some_iff {items : List Json} {r : Loki} :
    ofItems? items = some r ↔ items = [.string r.ts, .object r.labels, .string r.line] := by
  constructor
  · intro h
    unfold ofItems? at h
    split at h
    next => cases h; rfl
    next => cases h
  · rintro rfl
    rfl

theorem Docker.ofItems?_eq_some_iff {items : List Json} {r : Docker} :
    ofItems? items = some r ↔ items = [.string r.log, .string r.stream, .string r.time] := by
  constructor
  · intro h
    unfold ofItems? at h
    split at h
    next => cases h; rfl
    next => cases h
  · rintro rfl
    rfl

theorem Loki.ofMembers?_eq_some_iff {members : Fields} {r : Loki} :
    ofMembers? members = some r ↔ (Entry.loki r).Fits members := by
  rw [Entry.fits_loki_iff, ofMembers?, Option.ite_none_right_eq_some]
  simp [Fields.given?_eq_some_iff, ofItems?_eq_some_iff, keys, Option.bind_eq_some_iff, Json.isNull]

theorem Docker.ofMembers?_eq_some_iff {members : Fields} {r : Docker} :
    ofMembers? members = some r ↔ (Entry.docker r).Fits members := by
  rw [Entry.fits_docker_iff, ofMembers?, Option.ite_none_right_eq_some]
  simp [Fields.given?_eq_some_iff, ofItems?_eq_some_iff, keys, Option.bind_eq_some_iff, Json.isNull]

namespace Entry

variable {members : Fields} {e : Entry}

/-- A reader of one format, as a reader of entries. -/
theorem map_eq_some_iff_fits {α : Type} {read : Option α} {make : α → Entry} {kind : Kind}
    (hread : ∀ r, read = some r ↔ (make r).Fits members)
    (hkind : e.kind = kind ↔ ∃ r, make r = e) :
    read.map make = some e ↔ e.kind = kind ∧ e.Fits members := by
  rw [Option.map_eq_some_iff, hkind]
  constructor
  · rintro ⟨r, hr, rfl⟩
    exact ⟨⟨r, rfl⟩, (hread r).1 hr⟩
  · rintro ⟨⟨r, rfl⟩, hfits⟩
    exact ⟨r, (hread r).2 hfits, rfl⟩

/-- A payload with members gives the one entry of its kind that these members fit. -/
theorem ofPayload?_object_iff {kind : Kind} (hkind : kind ≠ .unknownJson) :
    ofPayload? kind (.object members) = some e ↔ e.kind = kind ∧ e.Fits members := by
  cases kind with
  | unknownJson => exact absurd rfl hkind
  | pino =>
    refine map_eq_some_iff_fits (fun _ => Pino.ofMembers?_eq_some_iff) ?_
    cases e <;> simp [Entry.kind]
  | winston =>
    refine map_eq_some_iff_fits (fun _ => Winston.ofMembers?_eq_some_iff) ?_
    cases e <;> simp [Entry.kind]
  | loki =>
    refine map_eq_some_iff_fits (fun _ => Loki.ofMembers?_eq_some_iff) ?_
    cases e <;> simp [Entry.kind]
  | promtail =>
    refine map_eq_some_iff_fits (fun _ => Promtail.ofMembers?_eq_some_iff) ?_
    cases e <;> simp [Entry.kind]
  | docker =>
    refine map_eq_some_iff_fits (fun _ => Docker.ofMembers?_eq_some_iff) ?_
    cases e <;> simp [Entry.kind]
  | text =>
    have hmap : ofPayload? .text (.object members) =
        (if eachOnce (Kind.keys .text) members then (Fields.get? members "line").bind Json.string?
          else none).map .text := by
      rw [ofPayload?]
      split <;> rfl
    rw [hmap]
    refine map_eq_some_iff_fits (fun line => ?_) ?_
    · rw [fits_text_iff, Option.ite_none_right_eq_some, Fields.bind_string?_eq_some_iff]
    · cases e <;> simp [Entry.kind]

end Entry

end Logbook
