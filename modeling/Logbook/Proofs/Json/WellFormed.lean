import Logbook.Json.Draft
import Logbook.Proofs.Json.Members

/-!
# Well-formed values

A JSON value is well-formed if its integers fit in 64 bits and the members of its objects are in
order, all the way down (`Json.WellFormed`). Every text gives such a value
(`Json.ofText?_wellFormed`).

A value that is put together from parts need not be so, for the members of a record are listed as
its format has them. Putting all its members in order (`Json.ordered`) makes a JSON value of it; a
well-formed value stays as it is.
-/

namespace Logbook

namespace Json

/-- The integers fit in 64 bits, with a sign or without, and the members of objects are in order. -/
inductive WellFormed : Json → Prop
  | null : WellFormed .null
  | bool (b : Bool) : WellFormed (.bool b)
  | integer {n : Int} (h : -0x8000000000000000 ≤ n ∧ n < 0x10000000000000000) :
    WellFormed (.integer n)
  | real (negative : Bool) (m : Magnitude) : WellFormed (.real negative m)
  | string (s : String) : WellFormed (.string s)
  | array {items : List Json} (h : ∀ v ∈ items, WellFormed v) : WellFormed (.array items)
  | object {fields : Fields} (hord : fields.Ordered) (h : ∀ p ∈ fields, WellFormed p.2) :
    WellFormed (.object fields)

/-! ## Putting in order -/

mutual

/-- The value with the members of its objects in order. -/
def ordered : Json → Json
  | .array items => .array (orderedItems items)
  | .object members => .object (Fields.ofList (orderedMembers members))
  | .null => .null
  | .bool b => .bool b
  | .integer n => .integer n
  | .real negative m => .real negative m
  | .string s => .string s

/-- The items, each with the members of its objects in order. -/
def orderedItems : List Json → List Json
  | [] => []
  | v :: vs => ordered v :: orderedItems vs

/-- The members, each with the members of its objects in order. -/
def orderedMembers : List (String × Json) → List (String × Json)
  | [] => []
  | (key, v) :: rest => (key, ordered v) :: orderedMembers rest

end

theorem orderedItems_eq_self {items : List Json} (h : ∀ v ∈ items, v.ordered = v) :
    orderedItems items = items := by
  induction items with
  | nil => rfl
  | cons v vs ih =>
    obtain ⟨hv, hvs⟩ := List.forall_mem_cons.1 h
    rw [orderedItems, hv, ih hvs]

theorem orderedMembers_eq_self {members : List (String × Json)}
    (h : ∀ p ∈ members, p.2.ordered = p.2) : orderedMembers members = members := by
  induction members with
  | nil => rfl
  | cons p rest ih =>
    obtain ⟨hp, hrest⟩ := List.forall_mem_cons.1 h
    rw [orderedMembers, hp, ih hrest]

theorem WellFormed.ordered_eq {v : Json} (h : v.WellFormed) : v.ordered = v := by
  induction h with
  | array _ ih => rw [ordered, orderedItems_eq_self ih]
  | object hord _ ih => rw [ordered, orderedMembers_eq_self ih, hord.ofList_eq]
  | _ => rw [ordered]

/-- Of an object whose members are well-formed only these are put in order. -/
theorem ordered_object {members : List (String × Json)} (h : ∀ p ∈ members, p.2.WellFormed) :
    (Json.object members).ordered = .object (Fields.ofList members) := by
  rw [ordered, orderedMembers_eq_self fun p hp => (h p hp).ordered_eq]

theorem wellFormed_ofList {members : List (String × Json)} (h : ∀ p ∈ members, p.2.WellFormed) :
    (Json.object (Fields.ofList members)).WellFormed :=
  .object (Fields.ordered_ofList members) fun p hp => h p (Fields.mem_of_mem_ofList hp)

/-! ## The values of texts -/

theorem takeWhole_lt {s : Significand} (h : s.value < wordBound) (ds : List Char) :
    (takeWhole s ds).value < wordBound := by
  induction ds generalizing s with
  | nil => exact h
  | cons d ds ih =>
    rw [takeWhole]
    split
    next hlt => exact ih hlt
    next => exact h

theorem Numeral.value?_wellFormed {n : Numeral} {v : Json} (h : n.value? = some v) :
    v.WellFormed := by
  have hlt : (takeWhole ⟨0, 0⟩ n.whole).value < wordBound := takeWhole_lt (by decide) n.whole
  rw [wordBound] at hlt
  rw [Numeral.value?] at h
  split at h
  next hwhole =>
    -- A negative one is no further from zero than the sign allows.
    cases h
    refine .integer ?_
    simp only [Bool.and_eq_true, Bool.or_eq_true, Bool.not_eq_true', decide_eq_true_eq] at hwhole
    split <;> grind
  next =>
    obtain ⟨m, -, rfl⟩ := Option.map_eq_some_iff.1 h
    exact .real n.negative m

end Json

namespace Draft

/-- The numbers are well-formed values. -/
inductive Proper : Draft → Prop
  | null : Proper .null
  | bool (b : Bool) : Proper (.bool b)
  | number {value : Option Json} (h : ∀ v, value = some v → v.WellFormed) : Proper (.number value)
  | string (s : Option String) : Proper (.string s)
  | array {items : List Draft} (h : ∀ d ∈ items, Proper d) : Proper (.array items)
  | object {members : List (Option String × Draft)} (h : ∀ p ∈ members, Proper p.2) :
    Proper (.object members)

theorem number?_proper {cs rest : List Char} {d : Draft} (h : number? cs = some (d, rest)) :
    d.Proper := by
  obtain ⟨n, -, heq⟩ := Option.map_eq_some_iff.1 h
  cases heq
  exact .number fun _ => Json.Numeral.value?_wellFormed

/-- Whatever is read of a text is proper: values, and lists and objects after what was read of them
    already. -/
theorem proper_of_read (bound : Nat) :
    (∀ {cs rest d}, valueAt? bound cs = some (d, rest) → d.Proper) ∧
    (∀ {done cs rest d}, (∀ d ∈ done, Proper d) →
      itemsAt? bound done cs = some (d, rest) → d.Proper) ∧
    (∀ {done cs rest d}, (∀ p ∈ done, Proper p.2) →
      membersAt? bound done cs = some (d, rest) → d.Proper) := by
  -- The three readers call each other, always with a smaller bound.
  induction bound with
  | zero => exact ⟨nofun, fun _ => nofun, fun _ => nofun⟩
  | succ bound ih =>
    obtain ⟨hvalue, hitems, hmembers⟩ := ih
    refine ⟨fun {cs rest d} h => ?_, fun {done cs rest d} hdone h => ?_,
      fun {done cs rest d} hdone h => ?_⟩
    · rw [valueAt?] at h
      split at h
      next =>
        obtain ⟨p, -, heq⟩ := Option.map_eq_some_iff.1 h
        cases heq
        exact .string _
      next =>
        split at h
        next => cases h; exact .array nofun
        next => exact hitems (List.forall_mem_nil _) h
      next =>
        split at h
        next => cases h; exact .object nofun
        next => exact hmembers (List.forall_mem_nil _) h
      next => cases h; exact .null
      next => cases h; exact .bool true
      next => cases h; exact .bool false
      next => exact number?_proper h
    · rw [itemsAt?] at h
      obtain ⟨⟨item, cs'⟩, hitem, h⟩ := Option.bind_eq_some_iff.1 h
      have hall : ∀ d ∈ item :: done, d.Proper := List.forall_mem_cons.2 ⟨hvalue hitem, hdone⟩
      dsimp only at h
      split at h
      next => exact hitems hall h
      next => cases h; exact .array fun d hd => hall d (List.mem_reverse.1 hd)
      next => cases h
    · rw [membersAt?] at h
      split at h
      next =>
        obtain ⟨⟨key, cs'⟩, -, h⟩ := Option.bind_eq_some_iff.1 h
        dsimp only at h
        split at h
        next =>
          obtain ⟨⟨value, cs''⟩, hitem, h⟩ := Option.bind_eq_some_iff.1 h
          have hall : ∀ p ∈ (key, value) :: done, p.2.Proper :=
            List.forall_mem_cons.2 ⟨hvalue hitem, hdone⟩
          dsimp only at h
          split at h
          next => exact hmembers hall h
          next => cases h; exact .object fun p hp => hall p (List.mem_reverse.1 hp)
          next => cases h
        next => cases h
      next => cases h

theorem ofText?_proper {cs : List Char} {d : Draft} (h : ofText? cs = some d) : d.Proper := by
  obtain ⟨⟨d', rest⟩, hvalue, h⟩ := Option.bind_eq_some_iff.1 h
  dsimp only at h
  split at h
  next => cases h; exact (proper_of_read _).1 hvalue
  next => cases h

theorem itemsIn?_wellFormed {room : Nat} {items : List Draft} {vs : List Json}
    (h : itemsIn? room items = some vs)
    (hitems : ∀ d ∈ items, ∀ v, valueIn? room d = some v → v.WellFormed) :
    ∀ v ∈ vs, v.WellFormed := by
  induction items generalizing vs with
  | nil => cases h; exact nofun
  | cons d ds ih =>
    rw [itemsIn?] at h
    obtain ⟨v, hv, h⟩ := Option.bind_eq_some_iff.1 h
    obtain ⟨vs, hvs, rfl⟩ := Option.map_eq_some_iff.1 h
    obtain ⟨hd, hds⟩ := List.forall_mem_cons.1 hitems
    exact List.forall_mem_cons.2 ⟨hd v hv, ih hvs hds⟩

theorem membersIn?_wellFormed {room : Nat} {members : List (Option String × Draft)}
    {values : List (String × Json)} (h : membersIn? room members = some values)
    (hmembers : ∀ p ∈ members, ∀ v, valueIn? room p.2 = some v → v.WellFormed) :
    ∀ p ∈ values, p.2.WellFormed := by
  induction members generalizing values with
  | nil => cases h; exact nofun
  | cons p members ih =>
    obtain ⟨key, d⟩ := p
    rw [membersIn?] at h
    obtain ⟨key, -, h⟩ := Option.bind_eq_some_iff.1 h
    obtain ⟨v, hv, h⟩ := Option.bind_eq_some_iff.1 h
    obtain ⟨values, hvalues, rfl⟩ := Option.map_eq_some_iff.1 h
    obtain ⟨hd, hds⟩ := List.forall_mem_cons.1 hmembers
    exact List.forall_mem_cons.2 ⟨hd v hv, ih hvalues hds⟩

theorem Proper.valueIn?_wellFormed {d : Draft} (hd : d.Proper) {room : Nat} {v : Json}
    (h : valueIn? room d = some v) : v.WellFormed := by
  induction hd generalizing room v with
  | null => cases h; exact .null
  | bool b => cases h; exact .bool b
  | number hnumber => exact hnumber v h
  | string s =>
    obtain ⟨s, -, rfl⟩ := Option.map_eq_some_iff.1 h
    exact .string s
  | array _ ih =>
    rw [valueIn?] at h
    split at h
    next => cases h
    next =>
      obtain ⟨vs, hvs, rfl⟩ := Option.map_eq_some_iff.1 h
      exact .array (itemsIn?_wellFormed hvs fun d hd _ => ih d hd)
  | object _ ih =>
    rw [valueIn?] at h
    split at h
    next => cases h
    next =>
      obtain ⟨values, hvalues, rfl⟩ := Option.map_eq_some_iff.1 h
      exact Json.wellFormed_ofList (membersIn?_wellFormed hvalues fun p hp _ => ih p hp)

end Draft

/-- A JSON text stands for a well-formed value. -/
theorem Json.ofText?_wellFormed {cs : List Char} {v : Json} (h : ofText? cs = some v) :
    v.WellFormed := by
  obtain ⟨d, hd, h⟩ := Option.bind_eq_some_iff.1 h
  exact (Draft.ofText?_proper hd).valueIn?_wellFormed h

end Logbook
