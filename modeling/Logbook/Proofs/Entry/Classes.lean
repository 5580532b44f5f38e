import Logbook.Proofs.Entry.Sound

/-!
# What a record keeps of an object

Taking an object for a record loses what the format has no place for and nothing else: a `null`
under a key whose value may be absent, and in a closed format every member that it does not name
(`Kind.keeps`). The payload of the record is the object without these members
(`Entry.Fits.members_eq`).

What is left is taken for the same record again (`Entry.ofFields?_filter_keeps`). A format that was
tried before does not fit it either: without a `null` the same values are given for every key, so
that the whole object would have fitted as well, and the members of one closed format are not enough
for any other.
-/

namespace Logbook

namespace Kind

/-- Whether a record of a format keeps a member of the object that it is read from. -/
def keeps : Kind → String × Json → Bool
  | .pino, (key, v) =>
    !(["pid", "hostname", "name", "req", "res", "meta"].contains key && v.isNull)
  | .winston, (key, v) => !(key = "meta" && v.isNull)
  | .loki, (key, _) => ["ts", "labels", "line"].contains key
  | .docker, (key, _) => ["log", "stream", "time"].contains key
  | .text, (key, _) => key = "line"
  | .promtail, _ | .unknownJson, _ => true

/-- The formats that an object may have, in the order in which they are tried. -/
def shapes : List Kind :=
  [.pino, .winston, .loki, .promtail, .docker]

/-- Of the formats that objects are tried in, a member that the format requires and no closed one
    but itself names. -/
def ownKey : Kind → String
  | .pino | .winston | .promtail => "level"
  | .loki => "labels"
  | .docker => "log"
  | .text | .unknownJson => ""

variable {kind : Kind} {key : String} {v : Json}

theorem ne_unknownJson (h : kind ∈ shapes) : kind ≠ .unknownJson := by
  rintro rfl
  exact absurd h (by decide)

theorem ownKey_not_mem_keys {other : Kind} (hclosed : kind.isClosed = true) (hne : other ≠ kind)
    (hshape : other ∈ shapes) : other.ownKey ∉ kind.keys := by
  revert hclosed hne hshape
  cases kind <;> cases other <;> decide

theorem keeps_of_mem_keys (hkey : key ∈ kind.keys) (hv : v.isNull = false) :
    kind.keeps (key, v) = true := by
  cases kind with
  | pino => simp [keeps, hv]
  | winston => simp [keeps, hv]
  | text => exact decide_eq_true (List.mem_singleton.1 hkey)
  | promtail | unknownJson => rfl
  | loki | docker => exact List.contains_iff_mem.2 hkey

theorem keeps_of_not_mem_keys (hkey : key ∉ kind.keys) :
    kind.keeps (key, v) = !kind.isClosed := by
  cases kind <;>
    simp_all [keeps, keys, isClosed, Pino.keys, Winston.keys, Loki.keys, Docker.keys]

theorem keeps_of_isClosed_eq_false (hkind : kind.isClosed = false) (hv : v.isNull = false) :
    kind.keeps (key, v) = true := by
  by_cases hkey : key ∈ kind.keys
  · exact keeps_of_mem_keys hkey hv
  · rw [keeps_of_not_mem_keys hkey, hkind, Bool.not_false]

end Kind

/-- The value with some of its members, if it is an object. -/
def Json.restrict (p : String × Json → Bool) : Json → Json
  | .object members => .object (members.filter p)
  | v => v

namespace Entry

variable {e : Entry} {fields : Fields}

/-- What a record has no value for may be absent from it, so that a `null` there is dropped. -/
theorem keeps_null (e : Entry) : ∀ key ∈ e.kind.keys,
    Fields.get? e.named key = none → e.kind.keeps (key, .null) = false := by
  cases e with
  | pino r => simp [kind, Kind.keys, Pino.keys, named, Fields.get?_cons, Kind.keeps, Json.isNull]
  | winston r =>
    simp [kind, Kind.keys, Winston.keys, named, Fields.get?_cons, Kind.keeps, Json.isNull]
  | promtail r => simp [kind, Kind.keys, Promtail.keys, named, Fields.get?_cons]
  | loki r => simp [kind, Kind.keys, Loki.keys, named, Fields.get?_cons]
  | docker r => simp [kind, Kind.keys, Docker.keys, named, Fields.get?_cons]
  | text line => simp [kind, Kind.keys, named, Fields.get?_cons]
  | unknownJson v => exact fun key hkey => absurd hkey List.not_mem_nil

/-- The members of a record are those that its format keeps of the object that it is read from. -/
theorem Fits.members_eq (h : e.Fits fields) (hord : fields.Ordered) (hsound : e.Sound) :
    Fields.ofList (e.named ++ e.extra) = fields.filter e.kind.keeps := by
  refine (Fields.ordered_ofList _).ext (hord.filter _) fun key => ?_
  rw [hsound.get?_members, Fields.get?_filter _ hord.nodup_keys]
  split
  next hkey =>
    -- The value under a named key stays, unless it is `null`.
    have hgiven := h.given key hkey
    rw [← hgiven, Fields.given?]
    cases hget : fields.get? key with
    | none => rfl
    | some v =>
      rw [Option.filter_some, Option.filter_some]
      cases hnull : v.isNull with
      | false => rw [Kind.keeps_of_mem_keys hkey hnull, Bool.not_false]
      | true =>
        obtain rfl := Json.eq_null hnull
        have hnone : Fields.get? e.named key = none := by
          rw [← hgiven, Fields.given?, hget]
          rfl
        rw [keeps_null e key hkey hnone, Bool.not_true]
  next hkey =>
    -- Any other member is kept or dropped by the format alone.
    simp only [Kind.keeps_of_not_mem_keys hkey]
    cases hclosed : e.kind.isClosed with
    | true => rw [extra_eq_nil hclosed, Bool.not_true]; cases fields.get? key <;> rfl
    | false =>
      rw [← h.extra hclosed, others_of_ordered hord, Fields.get?_filter _ hord.nodup_keys]
      cases fields.get? key <;> simp [hkey]

/-! ## Trying the formats -/

theorem ofFields?_eq_findSome? (fields : Fields) :
    ofFields? fields = Kind.shapes.findSome? fun kind => ofPayload? kind (.object fields) := by
  simp only [ofFields?, Kind.shapes, List.findSome?_cons, List.findSome?_nil, ofPayload?]
  cases (Pino.ofMembers? fields).map pino with
  | some e => rfl
  | none =>
  cases (Winston.ofMembers? fields).map winston with
  | some e => rfl
  | none =>
  cases (Loki.ofMembers? fields).map loki with
  | some e => rfl
  | none =>
  cases (Promtail.ofMembers? fields).map promtail with
  | some e => rfl
  | none => cases (Docker.ofMembers? fields).map docker <;> rfl

/-- Whether members fit a format depends on what they give for the keys of the format only. -/
theorem Fits.withExtra {fields' : Fields} (h : e.Fits fields) (hord : fields'.Ordered)
    (hkind : e.kind ≠ .unknownJson)
    (hgiven : ∀ key, fields'.given? key = fields.given? key) :
    (e.withExtra (others e.kind.keys fields')).Fits fields' := by
  refine ⟨eachOnce_of_ordered hord _, fun key hkey => ?_, inRange_withExtra h.inRange _,
    fun hclosed => ?_⟩
  · rw [kind_withExtra] at hkey
    rw [hgiven, h.given key hkey, named_withExtra]
  · rw [kind_withExtra] at hclosed
    rw [kind_withExtra, extra_withExtra hclosed hkind]

/-- A format that is not closed leaves out `null`s only. -/
theorem given?_filter_keeps {kind : Kind} (hclosed : kind.isClosed = false) (hord : fields.Ordered)
    (key : String) : Fields.given? (fields.filter kind.keeps) key = fields.given? key := by
  refine Option.ext fun v => ?_
  rw [Fields.given?_eq_some_iff, Fields.given?_eq_some_iff, Fields.get?_filter _ hord.nodup_keys,
    Option.filter_eq_some_iff]
  exact and_congr_left fun hnull =>
    and_iff_left (Kind.keeps_of_isClosed_eq_false hclosed hnull)

theorem mem_named_ownKey (h : e.kind ∈ Kind.shapes) : ∃ v, (e.kind.ownKey, v) ∈ e.named := by
  cases e with
  | pino r => exact ⟨.integer r.level, by simp [named, kind, Kind.ownKey]⟩
  | winston r => exact ⟨.string r.level, by simp [named, kind, Kind.ownKey]⟩
  | loki r => exact ⟨.object r.labels, by simp [named, kind, Kind.ownKey]⟩
  | promtail r => exact ⟨.string r.level, by simp [named, kind, Kind.ownKey]⟩
  | docker r => exact ⟨.string r.log, by simp [named, kind, Kind.ownKey]⟩
  | unknownJson | text => simp [kind, Kind.shapes] at h

/-- Members that fit one format are not what is left of an object by another, closed one. -/
theorem Fits.not_filter_keeps {kind : Kind} (hclosed : kind.isClosed = true)
    (hshape : e.kind ∈ Kind.shapes) (hne : e.kind ≠ kind) :
    ¬ e.Fits (fields.filter kind.keeps) := by
  intro h
  obtain ⟨v, hv⟩ := mem_named_ownKey hshape
  have hgiven := (h.given _ (key_mem_keys hv)).trans (Fields.get?_of_mem e.nodup_keys_named hv)
  have hmem := List.mem_filter.1 (Fields.mem_of_get? (Fields.given?_eq_some_iff.1 hgiven).1)
  rw [Kind.keeps_of_not_mem_keys (Kind.ownKey_not_mem_keys hclosed hne hshape), hclosed] at hmem
  cases hmem.2

/-- What is left of an object that was taken for a record is taken for the same record. -/
theorem ofFields?_filter_keeps (hord : fields.Ordered) (hfields : ∀ p ∈ fields, p.2.WellFormed)
    (h : ofFields? fields = some e) : ofFields? (fields.filter e.kind.keeps) = some e := by
  rw [ofFields?_eq_findSome?] at h ⊢
  obtain ⟨before, kind, after, heq, hkind, hbefore⟩ := List.findSome?_eq_some_iff.1 h
  have hmem : ∀ other ∈ before, other ∈ Kind.shapes := fun other hother =>
    heq ▸ List.mem_append_left _ hother
  have hne : kind ≠ .unknownJson :=
    Kind.ne_unknownJson (heq ▸ List.mem_append_right _ List.mem_cons_self)
  obtain ⟨rfl, hfits⟩ := (ofPayload?_object_iff hne).1 hkind
  have hsound := hfits.sound hne hfields
  refine List.findSome?_eq_some_iff.2 ⟨before, e.kind, after, heq, ?_, fun other hother => ?_⟩
  · rw [← hfits.members_eq hord hsound]
    exact (ofPayload?_object_iff hne).2 ⟨rfl, hsound.fits⟩
  · -- A format that fits now would have fitted before.
    refine Option.eq_none_iff_forall_ne_some.2 fun e' he' => ?_
    have hother' := Kind.ne_unknownJson (hmem other hother)
    obtain ⟨rfl, hfits'⟩ := (ofPayload?_object_iff hother').1 he'
    cases hclosed : e.kind.isClosed with
    | true =>
      refine Fits.not_filter_keeps hclosed (hmem _ hother) (fun hsame => ?_) hfits'
      rw [← hsame, hbefore _ hother] at hkind
      cases hkind
    | false =>
      have hwhole := hfits'.withExtra hord hother' fun key =>
        (given?_filter_keeps hclosed hord key).symm
      have hsome := (ofPayload?_object_iff hother').2 ⟨kind_withExtra e' _, hwhole⟩
      rw [hbefore _ hother] at hsome
      cases hsome

/-! ## Classes -/

/-- A value is an object that is taken for a record, or stays as it is. -/
theorem classify_cases (v : Json) : classify v = .unknownJson v ∨
    ∃ fields, v = .object fields ∧ ofFields? fields = some (classify v) := by
  cases v with
  | object fields =>
    rw [classify]
    cases h : ofFields? fields with
    | none => exact .inl rfl
    | some e => exact .inr ⟨fields, rfl, h⟩
  | _ => exact .inl rfl

theorem ofFields?_fits (h : ofFields? fields = some e) : e.kind ≠ .unknownJson ∧ e.Fits fields := by
  rw [ofFields?_eq_findSome?] at h
  obtain ⟨kind, hkind, h⟩ := List.exists_of_findSome?_eq_some h
  obtain ⟨rfl, hfits⟩ := (ofPayload?_object_iff (Kind.ne_unknownJson hkind)).1 h
  exact ⟨Kind.ne_unknownJson hkind, hfits⟩

/-- An object is never taken for a line of text. -/
theorem kind_classify_ne_text (v : Json) : (classify v).kind ≠ .text := by
  rcases classify_cases v with h | ⟨fields, -, h⟩
  · rw [h]
    exact Kind.noConfusion
  · rw [ofFields?_eq_findSome?] at h
    obtain ⟨kind, hkind, h⟩ := List.exists_of_findSome?_eq_some h
    obtain ⟨hsame, -⟩ := (ofPayload?_object_iff (Kind.ne_unknownJson hkind)).1 h
    rw [hsame]
    rintro rfl
    exact absurd hkind (by decide)

theorem sound_classify {v : Json} (h : v.WellFormed) : (classify v).Sound := by
  rcases classify_cases v with heq | ⟨fields, rfl, hof⟩
  · rw [heq]
    exact sound_unknownJson h
  · obtain ⟨hkind, hfits⟩ := ofFields?_fits hof
    exact hfits.sound hkind (listsWellFormed h)

/-- Of a JSON value the payload of its entry keeps what the format has a place for, and as a value
    of its own the payload gives the same entry. -/
theorem classify_payload {v : Json} (h : v.WellFormed) :
    ∃ payload, (classify v).tagged.ordered.get? "entry" = some payload ∧
      payload = v.restrict (classify v).kind.keeps ∧ classify payload = classify v := by
  refine ⟨(classify v).payload.ordered, get?_tagged_entry _, ?_⟩
  rcases classify_cases v with heq | ⟨fields, rfl, hof⟩
  · have hrestrict : v.restrict (Kind.keeps .unknownJson) = v := by
      cases v with
      | object members => exact congrArg Json.object (List.filter_eq_self.2 fun _ _ => rfl)
      | _ => rfl
    rw [heq, payload, h.ordered_eq, kind, hrestrict]
    exact ⟨rfl, heq⟩
  · obtain ⟨hkind, hfits⟩ := ofFields?_fits hof
    have hsound := sound_classify h
    cases h with
    | object hord hfields =>
      rw [payload_eq hkind, Json.ordered_object hsound.wellFormed, hfits.members_eq hord hsound]
      refine ⟨rfl, ?_⟩
      rw [classify, ofFields?_filter_keeps hord hfields hof, Option.getD_some]

/-- A record that has the members of the first format with values of other types. Without the `null`
    it is taken for a record of the second format again. -/
theorem classify_payload_winston :
    let fields : Fields := [("level", .string "info"), ("message", .string "up"), ("meta", .null),
      ("msg", .null), ("time", .real false .zero), ("timestamp", .string "noon")]
    (Json.object fields).WellFormed ∧ ∃ payload,
      (classify (.object fields)).tagged.ordered.get? "entry" = some payload ∧
      payload = .object (fields.eraseIdx 2) ∧ classify payload = classify (.object fields) := by
  intro fields
  have h : (Json.object fields).WellFormed := by
    refine .object (by decide) ?_
    simp [fields, Json.WellFormed.null, Json.WellFormed.string, Json.WellFormed.real]
  have hkind : (classify (.object fields)).kind = .winston := by rfl
  obtain ⟨payload, hentry, hpayload, hclass⟩ := classify_payload h
  exact ⟨h, payload, hentry, by rw [hpayload, hkind]; rfl, hclass⟩

end Entry

end Logbook
