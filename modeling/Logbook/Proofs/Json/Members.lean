import Logbook.Json.Basic

/-!
# Members in order

The members of an object ascend by their keys (`Fields.Ordered`), so that they are determined by the
values under the keys (`Fields.Ordered.ext`). Any list of members can be put in order
(`Fields.ordered_ofList`), which does not change the value under a key if no key is repeated
(`Fields.get?_ofList`).
-/

namespace Logbook.Fields

variable {fields members : Fields} {key k : String} {value : Json}

/-! ## Values under keys -/

theorem get?_cons (key : String) (value : Json) (members : List (String × Json)) (k : String) :
    get? ((key, value) :: members) k = if k = key then some value else get? members k := by
  rw [get?, List.lookup_cons]
  by_cases h : k = key
  · rw [if_pos h, h, beq_self_eq_true]
  · rw [if_neg h, beq_eq_false_iff_ne.2 h]
    rfl

theorem get?_append (front back : List (String × Json)) (k : String) :
    get? (front ++ back) k = (get? front k).or (get? back k) :=
  List.lookup_append

theorem get?_eq_none_iff : get? members k = none ↔ k ∉ members.map (·.1) := by
  rw [get?, List.lookup_eq_none_iff, List.mem_map]
  refine ⟨?_, fun h p hp => bne_iff_ne.2 fun heq => h ⟨p, hp, heq.symm⟩⟩
  rintro h ⟨p, hp, rfl⟩
  exact bne_iff_ne.1 (h p hp) rfl

theorem mem_of_get? (h : get? members k = some value) : (k, value) ∈ members := by
  obtain ⟨front, back, rfl, -⟩ := List.lookup_eq_some_iff.1 h
  exact List.mem_append_right _ List.mem_cons_self

theorem get?_of_mem (hnodup : (members.map (·.1)).Nodup) (h : (k, value) ∈ members) :
    get? members k = some value := by
  induction members with
  | nil => exact absurd h List.not_mem_nil
  | cons p members ih =>
    obtain ⟨key, v⟩ := p
    obtain ⟨hkey, hrest⟩ := List.nodup_cons.1 hnodup
    rw [get?_cons]
    rcases List.mem_cons.1 h with heq | hmem
    · cases heq
      exact if_pos rfl
    · have hne : k ≠ key := by
        rintro rfl
        exact hkey (List.mem_map.2 ⟨_, hmem, rfl⟩)
      rw [if_neg hne, ih hrest hmem]

/-- Of members with different keys some are left out by what they are. -/
theorem get?_filter (p : String × Json → Bool) (hnodup : (members.map (·.1)).Nodup) (k : String) :
    get? (members.filter p) k = (get? members k).filter fun v => p (k, v) := by
  induction members with
  | nil => rfl
  | cons m members ih =>
    obtain ⟨key, v⟩ := m
    obtain ⟨hkey, hrest⟩ := List.nodup_cons.1 hnodup
    rw [List.filter_cons, get?_cons]
    by_cases hk : k = key
    · subst hk
      have hnone : get? members k = none := get?_eq_none_iff.2 hkey
      rw [if_pos rfl, Option.filter_some]
      split
      · rw [get?_cons, if_pos rfl]
      · rw [ih hrest, hnone, Option.filter_none]
    · rw [if_neg hk, ← ih hrest]
      split
      · rw [get?_cons, if_neg hk]
      · rfl

/-! ## Order -/

/-- The keys ascend, so that none is repeated. -/
def Ordered (fields : Fields) : Prop :=
  fields.Pairwise fun p q => p.1 < q.1

instance : Decidable (Ordered fields) :=
  inferInstanceAs (Decidable (fields.Pairwise _))

theorem Ordered.nodup_keys (h : Ordered fields) : (fields.map (·.1)).Nodup := by
  refine List.pairwise_map.2 (h.imp fun {p q} hlt heq => ?_)
  rw [heq] at hlt
  exact String.lt_irrefl _ hlt

theorem Ordered.nodup (h : Ordered fields) : fields.Nodup :=
  (List.pairwise_map.1 h.nodup_keys).imp fun hne heq => hne (congrArg _ heq)

theorem Ordered.filter (h : Ordered fields) (p : String × Json → Bool) :
    Ordered (fields.filter p) :=
  List.Pairwise.filter p h

/-- Members in order are told by the values under the keys. -/
theorem Ordered.ext {fields' : Fields} (h : Ordered fields) (h' : Ordered fields')
    (hget : ∀ k, get? fields k = get? fields' k) : fields = fields' := by
  have hmem : ∀ p, p ∈ fields ↔ p ∈ fields' := fun (k, v) =>
    ⟨fun hp => mem_of_get? (hget k ▸ get?_of_mem h.nodup_keys hp),
      fun hp => mem_of_get? (hget k ▸ get?_of_mem h'.nodup_keys hp)⟩
  exact List.Perm.eq_of_pairwise (fun _ _ _ _ hab hba => absurd hba (String.lt_asymm hab)) h h'
    ((List.perm_ext_iff_of_nodup h.nodup h'.nodup).2 hmem)

theorem get?_insert (key : String) (value : Json) (fields : Fields) (k : String) :
    get? (insert key value fields) k = if k = key then some value else get? fields k := by
  induction fields with
  | nil => exact get?_cons key value [] k
  | cons p rest ih =>
    obtain ⟨key', v⟩ := p
    rw [insert]
    split
    next => rw [get?_cons]
    next =>
    split
    next heq =>
      rw [get?_cons, get?_cons, heq]
      split <;> rfl
    next hne =>
      rw [get?_cons, get?_cons, ih]
      by_cases hk : k = key'
      · rw [if_pos hk, if_neg fun heq => hne (heq.symm.trans hk), if_pos hk]
      · rw [if_neg hk, if_neg hk]

theorem mem_insert {p : String × Json} (h : p ∈ insert key value fields) :
    p = (key, value) ∨ p ∈ fields := by
  induction fields with
  | nil => exact .inl (List.mem_singleton.1 h)
  | cons q rest ih =>
    rw [insert] at h
    split at h
    next => exact List.mem_cons.1 h
    next =>
    split at h
    next => exact (List.mem_cons.1 h).imp_right (List.mem_cons_of_mem _)
    next =>
      rcases List.mem_cons.1 h with rfl | h
      · exact .inr List.mem_cons_self
      · exact (ih h).imp_right (List.mem_cons_of_mem _)

theorem Ordered.insert (h : Ordered fields) (key : String) (value : Json) :
    Ordered (Fields.insert key value fields) := by
  induction fields with
  | nil => exact List.pairwise_singleton _ _
  | cons p rest ih =>
    obtain ⟨hp, hrest⟩ := List.pairwise_cons.1 h
    rw [Fields.insert]
    split
    next hlt =>
      refine List.pairwise_cons.2 ⟨fun q hq => ?_, h⟩
      rcases List.mem_cons.1 hq with rfl | hq
      · exact hlt
      · exact String.lt_trans hlt (hp q hq)
    next hlt =>
    split
    next heq => exact List.pairwise_cons.2 ⟨heq ▸ hp, hrest⟩
    next hne =>
      refine List.pairwise_cons.2 ⟨fun q hq => ?_, ih hrest⟩
      rcases mem_insert hq with rfl | hq
      · exact Std.lt_of_le_of_ne (Std.not_lt.1 hlt) fun heq => hne heq.symm
      · exact hp q hq

/-! ## Putting members in order -/

theorem ordered_ofList (members : List (String × Json)) : Ordered (ofList members) := by
  have hfold : ∀ fields : Fields, Ordered fields →
      Ordered (members.foldl (fun fields p => insert p.1 p.2 fields) fields) := by
    induction members with
    | nil => exact fun _ h => h
    | cons p members ih => exact fun fields h => ih _ (h.insert p.1 p.2)
  exact hfold [] .nil

theorem mem_of_mem_ofList {p : String × Json} (h : p ∈ ofList members) : p ∈ members := by
  have hfold : ∀ fields : Fields,
      p ∈ members.foldl (fun fields p => insert p.1 p.2 fields) fields →
        p ∈ members ∨ p ∈ fields := by
    clear h
    induction members with
    | nil => exact fun _ h => .inr h
    | cons q members ih =>
      intro fields h
      rcases ih _ h with h | h
      · exact .inl (List.mem_cons_of_mem _ h)
      · rcases mem_insert h with rfl | h
        · exact .inl List.mem_cons_self
        · exact .inr h
  exact (hfold [] h).resolve_right List.not_mem_nil

theorem get?_ofList (hnodup : (members.map (·.1)).Nodup) (k : String) :
    get? (ofList members) k = get? members k := by
  have hfold : ∀ fields : Fields,
      get? (members.foldl (fun fields p => insert p.1 p.2 fields) fields) k =
        (get? members k).or (get? fields k) := by
    induction members with
    | nil => exact fun _ => rfl
    | cons p members ih =>
      obtain ⟨key, v⟩ := p
      obtain ⟨hkey, hnodup⟩ := List.nodup_cons.1 hnodup
      intro fields
      rw [List.foldl_cons, ih hnodup, get?_insert, get?_cons]
      by_cases hk : k = key
      · -- No later member has the key, so that this one stays.
        have hnone : get? members k = none := get?_eq_none_iff.2 (hk ▸ hkey)
        rw [if_pos hk, if_pos hk, hnone]
        rfl
      · rw [if_neg hk, if_neg hk]
  exact (hfold []).trans Option.or_none

theorem Ordered.ofList_eq (h : Ordered fields) : ofList fields = fields :=
  (ordered_ofList fields).ext h (get?_ofList h.nodup_keys)

end Logbook.Fields
