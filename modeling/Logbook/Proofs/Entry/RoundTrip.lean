import Logbook.Ingest
import Logbook.Proofs.Entry.Classes
import Logbook.Proofs.Entry.Drafts

/-!
# Handing entries on

An entry comes from a line, from a JSON value that is taken for a record, or from a tagged value or
text in any of the forms that are read (`Entry.Obtained`). However it was obtained, it is sound, so
that the tagged value that is written of it is read back as the very same entry
(`Entry.Obtained.ofJson?_tagged`), and so is a text of that value, if it does not nest too deeply
(`Entry.Obtained.ofDraft?_tagged`).
-/

namespace Logbook

namespace Json

mutual

theorem same_refl : (v : Json) → v.same v = true
  | .null => rfl
  | .bool _ => decide_eq_true rfl
  | .integer _ => decide_eq_true rfl
  | .real .. => decide_eq_true (congrArg some Std.ReflCmp.compare_self)
  | .string _ => decide_eq_true rfl
  | .array items => sameItems_refl items
  | .object fields => sameFields_refl fields

theorem sameItems_refl : (items : List Json) → sameItems items items = true
  | [] => rfl
  | v :: vs => by rw [sameItems, same_refl v, sameItems_refl vs, Bool.and_self]

theorem sameFields_refl : (fields : List (String × Json)) → sameFields fields fields = true
  | [] => rfl
  | (key, v) :: rest => by
    rw [sameFields, same_refl v, sameFields_refl rest, decide_eq_true rfl, Bool.and_self,
      Bool.and_self]

end

end Json

namespace Draft

theorem mem_of_keyed? {members : List (Option String × Draft)} {named : List (String × Draft)}
    (h : keyed? members = some named) : ∀ p ∈ named, (some p.1, p.2) ∈ members := by
  induction members generalizing named with
  | nil => cases h; exact nofun
  | cons p members ih =>
    obtain ⟨key, d⟩ := p
    rw [keyed?, List.mapM_cons] at h
    obtain ⟨q, hq, h⟩ := Option.bind_eq_some_iff.1 h
    obtain ⟨rest, hrest, h⟩ := Option.bind_eq_some_iff.1 h
    obtain ⟨key, rfl, rfl⟩ := Option.map_eq_some_iff.1 hq
    cases h
    exact List.forall_mem_cons.2
      ⟨List.mem_cons_self, fun p hp => List.mem_cons_of_mem _ (ih hrest p hp)⟩

theorem namedIn?_wellFormed {room : Nat} {keys : List String}
    {members : List (Option String × Draft)} {values : List (String × Json)}
    (hmembers : ∀ p ∈ members, Proper p.2) (h : namedIn? room keys members = some values) :
    ∀ p ∈ values, p.2.WellFormed := by
  obtain ⟨named, hnamed, h⟩ := Option.bind_eq_some_iff.1 h
  refine membersIn?_wellFormed h fun p hp v hv => Proper.valueIn?_wellFormed ?_ hv
  obtain ⟨q, hq, rfl⟩ := List.mem_map.1 hp
  exact hmembers _ (mem_of_keyed? hnamed q (List.mem_filter.1 hq).1)

end Draft

theorem Kind.ofName?_name (kind : Kind) : ofName? kind.name = some kind := by
  cases kind <;> decide

namespace Entry

variable {e : Entry}

/-- The ways in which entries are obtained. -/
inductive Obtained : Entry → Prop
  /-- From a line. -/
  | line {line : String} {e : Entry} (h : ofLine? line = some e) : Obtained e
  /-- From a JSON value that is taken for a record. -/
  | value {v : Json} (hv : v.WellFormed) : Obtained (classify v)
  /-- From a tagged JSON value. -/
  | tagged {v : Json} {e : Entry} (hv : v.WellFormed) (h : ofJson? v = some e) : Obtained e
  /-- From a tagged text. -/
  | text {s : String} {e : Entry} (h : ofTagged? s = some e) : Obtained e

theorem same_self (e : Entry) : e.same e = true := by
  rw [same, Json.same_refl, decide_eq_true rfl, Bool.and_self]

theorem sound_of_ofLine? {line : String} (h : ofLine? line = some e) : e.Sound := by
  rw [ofLine?] at h
  split at h
  next => cases h
  next =>
    cases h
    rw [ofObjectText?]
    split
    next fields heq => exact sound_classify (Json.ofText?_wellFormed heq)
    next => exact sound_text _

theorem sound_of_ofJson? {v : Json} (hv : v.WellFormed) (h : ofJson? v = some e) : e.Sound := by
  unfold ofJson? at h
  split at h
  next members =>
    obtain ⟨tag, -, h⟩ := Option.bind_eq_some_iff.1 h
    obtain ⟨payload, hpayload, h⟩ := Option.bind_eq_some_iff.1 h
    obtain ⟨kind, -, h⟩ := Option.bind_eq_some_iff.1 h
    have hwell := listsWellFormed hv _ (Fields.mem_of_get? hpayload)
    exact sound_of_ofPayload? (listsWellFormed hwell) (fun _ => hwell) h
  next tag payload =>
    obtain ⟨kind, -, h⟩ := Option.bind_eq_some_iff.1 h
    have hwell := listsWellFormed hv payload (List.mem_cons_of_mem _ List.mem_cons_self)
    exact sound_of_ofPayload? (listsWellFormed hwell) (fun _ => hwell) h
  next => cases h

/-- What is needed of a payload that is read from a text is well-formed. -/
theorem wellFormed_of_payloadIn? {room : Nat} {kind : Kind} {d : Draft} {payload : Json}
    (hd : d.Proper) (h : payloadIn? room kind d = some payload) :
    ListsWellFormed payload ∧ (kind = .unknownJson → payload.WellFormed) := by
  unfold payloadIn? at h
  split at h
  next =>
    have hwell := hd.valueIn?_wellFormed h
    exact ⟨listsWellFormed hwell, fun _ => hwell⟩
  next kind members hkind =>
    cases hd with
    | object hmembers =>
      obtain ⟨values, hvalues, rfl⟩ := Option.map_eq_some_iff.1 h
      refine ⟨?_, fun heq => absurd heq hkind⟩
      split at hvalues
      next => exact Draft.namedIn?_wellFormed hmembers hvalues
      next =>
        exact Draft.membersIn?_wellFormed hvalues fun p hp _ => (hmembers p hp).valueIn?_wellFormed
  next kind items hkind =>
    cases hd with
    | array hitems =>
      obtain ⟨values, hvalues, rfl⟩ := Option.map_eq_some_iff.1 h
      refine ⟨?_, fun heq => absurd heq hkind⟩
      exact Draft.itemsIn?_wellFormed hvalues fun d hd _ => (hitems d hd).valueIn?_wellFormed
  next => cases h

theorem sound_of_ofTags? {tags : List (String × Draft)} (htags : ∀ p ∈ tags, p.2.Proper)
    (h : ofTags? tags = some e) : e.Sound := by
  -- In either order the payload is read in the same way in the end.
  have hread : ∀ {kind payload}, payload.Proper →
      (payloadIn? payloadNesting kind payload).bind (ofPayload? kind) = some e → e.Sound := by
    intro kind payload hproper h
    obtain ⟨v, hv, h⟩ := Option.bind_eq_some_iff.1 h
    obtain ⟨hlists, hvalue⟩ := wellFormed_of_payloadIn? hproper hv
    exact sound_of_ofPayload? hlists hvalue h
  unfold ofTags? at h
  split at h
  next tag payload =>
    obtain ⟨kind, -, h⟩ := Option.bind_eq_some_iff.1 h
    exact hread (htags ("entry", payload) (List.mem_cons_of_mem _ List.mem_cons_self)) h
  next payload tag =>
    obtain ⟨kind, -, h⟩ := Option.bind_eq_some_iff.1 h
    obtain ⟨-, -, h⟩ := Option.bind_eq_some_iff.1 h
    exact hread (htags ("entry", payload) List.mem_cons_self) h
  next => cases h

theorem sound_of_ofTagged? {s : String} (h : ofTagged? s = some e) : e.Sound := by
  obtain ⟨d, hd, h⟩ := Option.bind_eq_some_iff.1 h
  have hproper := Draft.ofText?_proper hd
  unfold ofDraft? at h
  split at h
  next members =>
    cases hproper with
    | object hmembers =>
      obtain ⟨named, hnamed, h⟩ := Option.bind_eq_some_iff.1 h
      refine sound_of_ofTags? (fun p hp => ?_) h
      exact hmembers _ (Draft.mem_of_keyed? hnamed p (List.mem_filter.1 hp).1)
  next tag payload =>
    cases hproper with
    | array hitems =>
      obtain ⟨htag, hpayload⟩ := List.forall_mem_cons.1 hitems
      refine sound_of_ofTags? (List.forall_mem_cons.2 ⟨htag, ?_⟩) h
      exact List.forall_mem_singleton.2 (List.forall_mem_singleton.1 hpayload)
  next => cases h

theorem Obtained.sound (h : e.Obtained) : e.Sound := by
  cases h with
  | line h => exact sound_of_ofLine? h
  | value hv => exact sound_classify hv
  | tagged hv h => exact sound_of_ofJson? hv h
  | text h => exact sound_of_ofTagged? h

theorem Sound.ofJson?_ordered_tagged (h : e.Sound) : ofJson? e.tagged.ordered = some e := by
  have hkind : Kind.ofJson? (.string e.kind.name) = some e.kind := Kind.ofName?_name e.kind
  rw [ordered_tagged, ofJson?]
  exact (congrArg (Option.bind · (ofPayload? · e.payload.ordered)) hkind).trans h.ofPayload?_payload

/-- However an entry was obtained, the tagged value that is written of it gives the very same entry
    again, so that its kind and all that is told of it are the same as well. -/
theorem Obtained.ofJson?_tagged (h : e.Obtained) :
    ofJson? e.tagged.ordered = some e ∧ e.same e = true :=
  ⟨h.sound.ofJson?_ordered_tagged, e.same_self⟩

/-- A line with labels that was handed on as a list of its kind and its three values. -/
theorem Obtained.ofJson?_tagged_loki :
    let e := Entry.loki ⟨"2024-05-01", [("app", .string "web")], "up"⟩
    e.Obtained ∧ ofJson? e.tagged.ordered = some e ∧ e.same e = true := by
  intro e
  let labels : Json := .object [("app", .string "web")]
  let items : List Json := [.string "2024-05-01", labels, .string "up"]
  have hlabels : labels.WellFormed :=
    .object (by decide) (List.forall_mem_singleton.2 (.string "web"))
  have hitems : (Json.array items).WellFormed := by
    refine .array ?_
    simp [items, hlabels, Json.WellFormed.string]
  have hvalue : (Json.array [.string "loki", .array items]).WellFormed := by
    refine .array ?_
    simp [hitems, Json.WellFormed.string]
  have h : e.Obtained := .tagged hvalue (by rfl)
  exact ⟨h, h.ofJson?_tagged⟩

/-- What a text of the tagged value says gives the entry again, if it does not nest too deeply. -/
theorem Obtained.ofDraft?_tagged (h : e.Obtained)
    (hnesting : e.tagged.ordered.nesting ≤ Draft.maxNesting) :
    ofDraft? e.tagged.ordered.draft = some e :=
  (ofDraft?_draft h.sound.wellFormed_tagged hnesting).trans h.sound.ofJson?_ordered_tagged

end Entry

end Logbook
