import Logbook.Proofs.Entry.Sound

/-!
# Tagged values as texts say them

A JSON value can be said by a text unless it nests too deeply, and then it is the value of what the
text says (`Json.valueIn?_draft`). So a tagged entry is read alike from a value and from a text of
it (`Entry.ofDraft?_draft`), although a text is read with a closer look: what a format passes over
is not made a value of there.
-/

namespace Logbook

namespace Json

mutual

/-- What a text of the value says. -/
def draft : Json → Draft
  | .null => .null
  | .bool b => .bool b
  | .integer n => .number (some (.integer n))
  | .real negative m => .number (some (.real negative m))
  | .string s => .string (some s)
  | .array items => .array (draftItems items)
  | .object members => .object (draftMembers members)

/-- What a text of the items says. -/
def draftItems : List Json → List Draft
  | [] => []
  | v :: vs => draft v :: draftItems vs

/-- What a text of the members says. -/
def draftMembers : List (String × Json) → List (Option String × Draft)
  | [] => []
  | (key, v) :: rest => (some key, draft v) :: draftMembers rest

end

mutual

/-- The number of containers that stand inside one another. -/
def nesting : Json → Nat
  | .array items => nestingItems items + 1
  | .object members => nestingMembers members + 1
  | .null | .bool _ | .integer _ | .real .. | .string _ => 0

/-- The number of containers that stand inside one another in a list. -/
def nestingItems : List Json → Nat
  | [] => 0
  | v :: vs => max (nesting v) (nestingItems vs)

/-- The number of containers that stand inside one another in the values of members. -/
def nestingMembers : List (String × Json) → Nat
  | [] => 0
  | (_, v) :: rest => max (nesting v) (nestingMembers rest)

end

theorem draftMembers_eq (members : List (String × Json)) :
    draftMembers members = members.map fun (key, v) => (some key, draft v) := by
  induction members with
  | nil => rfl
  | cons p rest ih => rw [draftMembers, ih, List.map_cons]

theorem nesting_le_nestingItems {items : List Json} {v : Json} (h : v ∈ items) :
    v.nesting ≤ nestingItems items := by
  induction items with
  | nil => cases h
  | cons w vs ih =>
    rw [nestingItems]
    rcases List.mem_cons.1 h with rfl | h
    · exact Nat.le_max_left _ _
    · exact Nat.le_trans (ih h) (Nat.le_max_right _ _)

theorem nesting_le_nestingMembers {members : List (String × Json)} {p : String × Json}
    (h : p ∈ members) : p.2.nesting ≤ nestingMembers members := by
  induction members with
  | nil => cases h
  | cons q rest ih =>
    rw [nestingMembers]
    rcases List.mem_cons.1 h with rfl | h
    · exact Nat.le_max_left _ _
    · exact Nat.le_trans (ih h) (Nat.le_max_right _ _)

end Json

namespace Draft

open Json

theorem itemsIn?_draftItems {room : Nat} {items : List Json}
    (h : ∀ v ∈ items, valueIn? room v.draft = some v) :
    itemsIn? room (draftItems items) = some items := by
  induction items with
  | nil => rfl
  | cons v vs ih =>
    obtain ⟨hv, hvs⟩ := List.forall_mem_cons.1 h
    rw [draftItems, itemsIn?, hv, ih hvs]
    rfl

theorem membersIn?_draftMembers {room : Nat} {members : List (String × Json)}
    (h : ∀ p ∈ members, valueIn? room p.2.draft = some p.2) :
    membersIn? room (draftMembers members) = some members := by
  induction members with
  | nil => rfl
  | cons p rest ih =>
    obtain ⟨key, v⟩ := p
    obtain ⟨hv, hrest⟩ := List.forall_mem_cons.1 h
    have hv : valueIn? room v.draft = some v := hv
    rw [draftMembers, membersIn?, hv, ih hrest]
    rfl

/-- A value is the value of what a text of it says, if there is room for its containers. -/
theorem valueIn?_draft {v : Json} (hv : v.WellFormed) {room : Nat} (hroom : v.nesting ≤ room) :
    valueIn? room v.draft = some v := by
  induction hv generalizing room with
  | @array items _ ih =>
    rw [nesting] at hroom
    have hitems : ∀ v ∈ items, valueIn? (room - 1) v.draft = some v := fun v hv =>
      ih v hv (Nat.le_trans (nesting_le_nestingItems hv) (Nat.le_sub_one_of_lt hroom))
    rw [draft, valueIn?, if_neg (by omega), itemsIn?_draftItems hitems]
    rfl
  | @object members hord _ ih =>
    rw [nesting] at hroom
    have hmembers : ∀ p ∈ members, valueIn? (room - 1) p.2.draft = some p.2 := fun p hp =>
      ih p hp (Nat.le_trans (nesting_le_nestingMembers hp) (Nat.le_sub_one_of_lt hroom))
    rw [draft, valueIn?, if_neg (by omega), membersIn?_draftMembers hmembers, Option.map_some,
      hord.ofList_eq]
  | _ => rfl

theorem keyed?_draftMembers (members : List (String × Json)) :
    keyed? (draftMembers members) = some (members.map fun (key, v) => (key, v.draft)) := by
  rw [keyed?, draftMembers_eq, List.mapM_map]
  exact List.mapM_pure

/-- The members under the given keys are the ones that a text says of them. -/
theorem namedIn?_draftMembers {room : Nat} {members : List (String × Json)} (keys : List String)
    (h : ∀ p ∈ members, valueIn? room p.2.draft = some p.2) :
    namedIn? room keys (draftMembers members) =
      some (members.filter fun p => keys.contains p.1) := by
  have hnamed : ∀ p ∈ members.filter (fun p => keys.contains p.1),
      valueIn? room p.2.draft = some p.2 := fun p hp => h p (List.mem_filter.1 hp).1
  rw [namedIn?, keyed?_draftMembers]
  refine Eq.trans ?_ (membersIn?_draftMembers hnamed)
  rw [draftMembers_eq, Option.bind_eq_bind, Option.bind_some, List.filter_map]
  dsimp only
  rw [List.map_map]
  rfl

end Draft

theorem Kind.ofDraft?_draft (v : Json) : ofDraft? v.draft = ofJson? v := by
  cases v with
  | object members =>
    match members with
    | [] => rfl
    | [(key, v)] => cases v <;> rfl
    | (_, v) :: (_, _) :: _ => cases v <;> rfl
  | _ => rfl

namespace Entry

open Draft

/-- A closed format asks for the members that it names only. -/
theorem ofPayload?_filter_keys {kind : Kind} {members : Fields} (hclosed : kind.isClosed = true)
    (hord : members.Ordered) :
    ofPayload? kind (.object (members.filter fun p => kind.keys.contains p.1)) =
      ofPayload? kind (.object members) := by
  have hkind : kind ≠ .unknownJson := by
    rintro rfl
    cases hclosed
  refine Option.ext fun e => ?_
  rw [ofPayload?_object_iff hkind, ofPayload?_object_iff hkind]
  refine and_congr_right ?_
  rintro rfl
  have hgiven : ∀ key ∈ e.kind.keys,
      Fields.given? (members.filter fun p => e.kind.keys.contains p.1) key =
        members.given? key := by
    intro key hkey
    rw [Fields.given?, Fields.get?_filter _ hord.nodup_keys, Fields.given?]
    cases members.get? key <;> simp [hkey]
  rw [fits_iff, fits_iff, eachOnce_of_ordered (hord.filter _), eachOnce_of_ordered hord, hclosed]
  refine and_congr_right fun _ => and_congr ?_ (and_congr_right fun _ => ?_)
  · exact forall₂_congr fun key hkey => by rw [hgiven key hkey]
  · exact iff_of_true (fun h => absurd h.symm Bool.false_ne_true)
      fun h => absurd h.symm Bool.false_ne_true

theorem bind_payloadIn?_draft (kind : Kind) {payload : Json} (hv : payload.WellFormed) {room : Nat}
    (hroom : payload.nesting ≤ room) :
    (payloadIn? room kind payload.draft).bind (ofPayload? kind) = ofPayload? kind payload := by
  by_cases hkind : kind = .unknownJson
  · subst hkind
    rw [payloadIn?, valueIn?_draft hv hroom, Option.bind_some]
  cases hv with
  | @array items hitems =>
    rw [Json.nesting] at hroom
    have hread : ∀ v ∈ items, valueIn? (room - 1) v.draft = some v := fun v hv =>
      valueIn?_draft (hitems v hv)
        (Nat.le_trans (Json.nesting_le_nestingItems hv) (Nat.le_sub_one_of_lt hroom))
    rw [Json.draft, payloadIn?, itemsIn?_draftItems hread]
    · rfl
    · exact hkind
  | @object members hord hmembers =>
    rw [Json.nesting] at hroom
    have hread : ∀ p ∈ members, valueIn? (room - 1) p.2.draft = some p.2 := fun p hp =>
      valueIn?_draft (hmembers p hp)
        (Nat.le_trans (Json.nesting_le_nestingMembers hp) (Nat.le_sub_one_of_lt hroom))
    rw [Json.draft, payloadIn?, namedIn?_draftMembers _ hread, membersIn?_draftMembers hread]
    · cases hclosed : kind.isClosed with
      | true => exact ofPayload?_filter_keys hclosed hord
      | false => rfl
    · exact hkind
  | _ => cases kind <;> rfl

/-- What names the kind and the payload among the members of an object. -/
theorem filter_tags {members : Fields} (hord : members.Ordered) :
    (members.filter fun (key, _) => key = "kind" || key = "entry") =
      member? "entry" (members.get? "entry") ++ member? "kind" (members.get? "kind") := by
  have htags : Fields.Ordered
      (member? "entry" (members.get? "entry") ++ member? "kind" (members.get? "kind")) := by
    have hlt : "entry" < "kind" := by decide
    cases members.get? "entry" with
    | none =>
      cases members.get? "kind" with
      | none => exact .nil
      | some tag => exact List.pairwise_singleton _ _
    | some payload =>
      cases members.get? "kind" with
      | none => exact List.pairwise_singleton _ _
      | some tag =>
        exact .cons (List.forall_mem_singleton.2 hlt) (List.pairwise_singleton _ _)
  refine (hord.filter _).ext htags fun key => ?_
  rw [Fields.get?_filter _ hord.nodup_keys, Fields.get?_append, get?_member?, get?_member?]
  by_cases hkind : key = "kind"
  · subst hkind
    cases members.get? "kind" <;> simp
  · by_cases hentry : key = "entry"
    · subst hentry
      cases members.get? "entry" <;> simp
    · cases members.get? key <;> simp [hkind, hentry]

/-- A tagged entry is read alike from a value and from a text of it. -/
theorem ofDraft?_draft {v : Json} (hv : v.WellFormed) (hnesting : v.nesting ≤ maxNesting) :
    ofDraft? v.draft = ofJson? v := by
  cases hv with
  | @object members hord hmembers =>
    rw [Json.draft, ofDraft?, keyed?_draftMembers, Option.bind_some, List.filter_map]
    have htags := congrArg (List.map fun p => (p.1, p.2.draft)) (filter_tags hord)
    refine (congrArg ofTags? htags).trans ?_
    rw [ofJson?]
    cases hentry : members.get? "entry" with
    | none =>
      cases members.get? "kind" <;> rfl
    | some payload =>
      cases members.get? "kind" with
      | none => rfl
      | some tag =>
        -- The payload stands before its kind, and its value is asked for at once.
        have hmem := Fields.mem_of_get? hentry
        have hroom : payload.nesting ≤ payloadNesting :=
          Nat.le_trans (Json.nesting_le_nestingMembers hmem) (Nat.le_sub_one_of_lt hnesting)
        change ofTags? [("entry", payload.draft), ("kind", tag.draft)] = _
        rw [ofTags?, Kind.ofDraft?_draft, valueIn?_draft (hmembers _ hmem) hroom]
        exact congrArg _ (funext fun kind => bind_payloadIn?_draft kind (hmembers _ hmem) hroom)
  | @array items hitems =>
    match items, hitems with
    | [tag, payload], hitems =>
      have hmem : payload ∈ [tag, payload] := List.mem_cons_of_mem _ List.mem_cons_self
      have hroom : payload.nesting ≤ payloadNesting :=
        Nat.le_trans (Json.nesting_le_nestingItems hmem) (Nat.le_sub_one_of_lt hnesting)
      change ofTags? [("kind", tag.draft), ("entry", payload.draft)] = _
      rw [ofTags?, Kind.ofDraft?_draft, ofJson?]
      exact congrArg _ (funext fun kind => bind_payloadIn?_draft kind (hitems _ hmem) hroom)
    | [], _ => rfl
    | [_], _ => rfl
    | _ :: _ :: _ :: _, _ => rfl
  | _ => rfl

end Entry

end Logbook
