import Logbook.Proofs.Entry.Records

/-!
# Sound entries

Whatever an entry is read from, it is *sound*: no member that it has is `null`, no number is out of
range, and no extra member has a name that the format gives a meaning of its own (`Entry.Sound`).
Nothing less would do for reading an entry back from what is written of it: a `null` would be taken
for no value, and an extra member for one that the format names. A sound entry is read back from its
payload once all members are put in order (`Entry.Sound.ofPayload?_payload`).
-/

namespace Logbook

namespace Entry

variable {members : Fields} {e : Entry}

/-- An entry as reading gives it. -/
structure Sound (e : Entry) : Prop where
  /-- The numbers are in range. -/
  inRange : e.InRange
  /-- No member that the format names is `null`. -/
  given : ∀ p ∈ e.named, p.2.isNull = false
  /-- The extra members are in order. -/
  ordered : e.extra.Ordered
  /-- The format names none of them. -/
  extra : ∀ p ∈ e.extra, p.1 ∉ e.kind.keys
  /-- The values of all members are well-formed. -/
  wellFormed : ∀ p ∈ e.named ++ e.extra, p.2.WellFormed
  /-- So is a value that is not of any format. -/
  value : ∀ v, e = .unknownJson v → v.WellFormed

theorem extra_eq_nil (h : e.kind.isClosed = true) : e.extra = [] := by
  cases e <;> first | rfl | cases h

theorem nodup_keys_named (e : Entry) : (e.named.map (·.1)).Nodup :=
  e.keys_named_sublist.nodup (nodup_keys e.kind)

theorem key_mem_keys {p : String × Json} (h : p ∈ e.named) : p.1 ∈ e.kind.keys :=
  e.keys_named_sublist.subset (List.mem_map_of_mem h)

theorem get?_named_eq_none {key : String} (h : key ∉ e.kind.keys) :
    Fields.get? e.named key = none :=
  Fields.get?_eq_none_iff.2 fun hmem => h (e.keys_named_sublist.subset hmem)

theorem mem_of_mem_others {keys : List String} {p : String × Json} (h : p ∈ others keys members) :
    p ∈ members ∧ p.1 ∉ keys := by
  obtain ⟨hmem, hkey⟩ := List.mem_filter.1 (Fields.mem_of_mem_ofList h)
  exact ⟨hmem, fun hkeys => by simp [hkeys] at hkey⟩

/-- A record that members with well-formed values fit is sound. -/
theorem Fits.sound (h : e.Fits members) (hkind : e.kind ≠ .unknownJson)
    (hmembers : ∀ p ∈ members, p.2.WellFormed) : e.Sound := by
  have hnamed : ∀ p ∈ e.named, members.given? p.1 = some p.2 := fun p hp =>
    (h.given p.1 (key_mem_keys hp)).trans (Fields.get?_of_mem e.nodup_keys_named hp)
  have hextra : e.extra.Ordered ∧ ∀ p ∈ e.extra, p ∈ members ∧ p.1 ∉ e.kind.keys := by
    cases hclosed : e.kind.isClosed with
    | true => exact extra_eq_nil hclosed ▸ ⟨.nil, nofun⟩
    | false => exact h.extra hclosed ▸ ⟨Fields.ordered_ofList _, fun p => mem_of_mem_others⟩
  refine ⟨h.inRange, fun p hp => ?_, hextra.1, fun p hp => (hextra.2 p hp).2, fun p hp => ?_, ?_⟩
  · exact (Fields.given?_eq_some_iff.1 (hnamed p hp)).2
  · refine hmembers p ?_
    rcases List.mem_append.1 hp with hp | hp
    · exact Fields.mem_of_get? (Fields.given?_eq_some_iff.1 (hnamed p hp)).1
    · exact (hextra.2 p hp).1
  · rintro v rfl
    exact absurd rfl hkind

/-! ## Reading back -/

/-- Members in order are not repeated. -/
theorem eachOnce_of_ordered {fields : Fields} (h : fields.Ordered) (keys : List String) :
    eachOnce keys fields = true := by
  refine List.all_eq_true.2 fun key _ => decide_eq_true ?_
  have hcount : (fields.map (·.1)).count key ≤ 1 := List.nodup_iff_count.1 h.nodup_keys key
  rw [List.count, List.countP_map, List.countP_eq_length_filter] at hcount
  exact hcount

theorem others_of_ordered {fields : Fields} (h : fields.Ordered) (keys : List String) :
    others keys fields = fields.filter fun (key, _) => !keys.contains key :=
  (h.filter _).ofList_eq

/-- The members of an entry have different keys. -/
theorem Sound.nodup (h : e.Sound) : ((e.named ++ e.extra).map (·.1)).Nodup := by
  rw [List.map_append, List.nodup_append]
  refine ⟨e.nodup_keys_named, h.ordered.nodup_keys, ?_⟩
  rintro key hnamed _ hextra rfl
  obtain ⟨p, hp, rfl⟩ := List.mem_map.1 hextra
  exact h.extra p hp (e.keys_named_sublist.subset hnamed)

theorem Sound.get?_extra_eq_none (h : e.Sound) {key : String} (hkey : key ∈ e.kind.keys) :
    Fields.get? e.extra key = none := by
  refine Fields.get?_eq_none_iff.2 fun hmem => ?_
  obtain ⟨p, hp, rfl⟩ := List.mem_map.1 hmem
  exact h.extra p hp hkey

theorem Sound.get?_members (h : e.Sound) (key : String) :
    Fields.get? (.ofList (e.named ++ e.extra)) key =
      if key ∈ e.kind.keys then Fields.get? e.named key else Fields.get? e.extra key := by
  rw [Fields.get?_ofList h.nodup, Fields.get?_append]
  split
  next hkey => rw [h.get?_extra_eq_none hkey, Option.or_none]
  next hkey => rw [get?_named_eq_none hkey, Option.none_or]

/-- A sound entry fits its own members, put in order. -/
theorem Sound.fits (h : e.Sound) : e.Fits (.ofList (e.named ++ e.extra)) := by
  have hord := Fields.ordered_ofList (e.named ++ e.extra)
  refine ⟨eachOnce_of_ordered hord _, fun key hkey => ?_, h.inRange, fun _ => ?_⟩
  · -- No value that the entry has is `null`, so that all of them are given.
    refine Option.ext fun v => ?_
    rw [Fields.given?_eq_some_iff, h.get?_members, if_pos hkey]
    exact and_iff_left_of_imp fun hv => h.given (key, v) (Fields.mem_of_get? hv)
  · -- Under any key that the format does not name stands what the extra members have there.
    rw [others_of_ordered hord]
    refine (hord.filter _).ext h.ordered fun key => ?_
    rw [Fields.get?_filter _ hord.nodup_keys, h.get?_members]
    by_cases hkey : key ∈ e.kind.keys
    · rw [h.get?_extra_eq_none hkey]
      simp [hkey]
    · cases Fields.get? e.extra key <;> simp [hkey]

/-- As a JSON value, an entry has its payload and the name of its kind. -/
theorem ordered_tagged (e : Entry) : e.tagged.ordered =
    .object [("entry", e.payload.ordered), ("kind", .string e.kind.name)] := by
  rw [tagged, Json.ordered, Json.orderedMembers, Json.orderedMembers, Json.orderedMembers,
    Json.ordered]
  rfl

theorem get?_tagged_entry (e : Entry) : e.tagged.ordered.get? "entry" = some e.payload.ordered := by
  rw [ordered_tagged]
  rfl

/-- A sound entry is read back from its payload with all members in order. -/
theorem Sound.ofPayload?_payload (h : e.Sound) : ofPayload? e.kind e.payload.ordered = some e := by
  by_cases hkind : e.kind = .unknownJson
  · cases e with
    | unknownJson v => rw [payload, (h.value v rfl).ordered_eq, kind, ofPayload?]
    | _ => cases hkind
  · rw [payload_eq hkind, Json.ordered_object h.wellFormed]
    exact (ofPayload?_object_iff hkind).2 ⟨rfl, h.fits⟩

theorem Sound.wellFormed_payload (h : e.Sound) : e.payload.ordered.WellFormed := by
  by_cases hkind : e.kind = .unknownJson
  · cases e with
    | unknownJson v => exact (h.value v rfl).ordered_eq.symm ▸ h.value v rfl
    | _ => cases hkind
  · rw [payload_eq hkind, Json.ordered_object h.wellFormed]
    exact Json.wellFormed_ofList h.wellFormed

/-- What is written of a sound entry is a JSON value. -/
theorem Sound.wellFormed_tagged (h : e.Sound) : e.tagged.ordered.WellFormed := by
  have hlt : "entry" < "kind" := by decide
  rw [ordered_tagged]
  refine .object (List.pairwise_pair.2 hlt) (List.forall_mem_cons.2 ⟨h.wellFormed_payload, ?_⟩)
  exact List.forall_mem_singleton.2 (.string _)

/-! ## What payloads give -/

/-- The values that are listed in a payload are well-formed. -/
def ListsWellFormed : Json → Prop
  | .object members => ∀ p ∈ members, p.2.WellFormed
  | .array items => ∀ v ∈ items, v.WellFormed
  | _ => True

theorem listsWellFormed {v : Json} (h : v.WellFormed) : ListsWellFormed v := by
  cases h with
  | array h => exact h
  | object _ h => exact h
  | _ => trivial

theorem sound_unknownJson {v : Json} (h : v.WellFormed) : (Entry.unknownJson v).Sound := by
  refine ⟨⟨⟩, nofun, .nil, nofun, nofun, ?_⟩
  rintro _ ⟨⟩
  exact h

/-- A record whose format holds no other members is sound if its named ones are. -/
theorem sound_of_named (hclosed : e.kind.isClosed = true) (hrange : e.InRange)
    (hnamed : ∀ p ∈ e.named, p.2.isNull = false ∧ p.2.WellFormed) : e.Sound := by
  have hextra := extra_eq_nil hclosed
  refine ⟨hrange, fun p hp => (hnamed p hp).1, ?_, ?_, fun p hp => ?_, ?_⟩
  · exact hextra ▸ .nil
  · exact hextra ▸ nofun
  · rw [hextra, List.append_nil] at hp
    exact (hnamed p hp).2
  · rintro v rfl
    cases hclosed

theorem sound_text (line : String) : (Entry.text line).Sound := by
  refine sound_of_named rfl ⟨⟩ ?_
  simp [named, Json.isNull, Json.WellFormed.string]

/-- An entry that a payload gives is sound. -/
theorem sound_of_ofPayload? {kind : Kind} {payload : Json} (hlists : ListsWellFormed payload)
    (hvalue : kind = .unknownJson → payload.WellFormed) (h : ofPayload? kind payload = some e) :
    e.Sound := by
  by_cases hkind : kind = .unknownJson
  · subst hkind
    cases h
    exact sound_unknownJson (hvalue rfl)
  cases payload with
  | object members =>
    obtain ⟨rfl, hfits⟩ := (ofPayload?_object_iff hkind).1 h
    exact hfits.sound hkind hlists
  | array items =>
    cases kind with
    | loki =>
      obtain ⟨r, hr, rfl⟩ := Option.map_eq_some_iff.1 h
      obtain rfl := Loki.ofItems?_eq_some_iff.1 hr
      have hlabels : (Json.object r.labels).WellFormed :=
        hlists _ (List.mem_cons_of_mem _ List.mem_cons_self)
      refine sound_of_named rfl ⟨⟩ ?_
      simp [named, Json.isNull, Json.WellFormed.string, hlabels]
    | docker =>
      obtain ⟨r, -, rfl⟩ := Option.map_eq_some_iff.1 h
      refine sound_of_named rfl ⟨⟩ ?_
      simp [named, Json.isNull, Json.WellFormed.string]
    | text =>
      obtain ⟨line, rfl⟩ : ∃ line, e = .text line := by
        unfold ofPayload? at h
        grind
      exact sound_text line
    | unknownJson => exact absurd rfl hkind
    | _ => cases h
  | _ => cases kind <;> first | exact absurd rfl hkind | cases h

end Entry

end Logbook
