import Logbook.Index.Basic
import Mathlib.Data.List.Sort

/-!
# Slots in order

Slots stand in a linear order, by instant and then by position (`Slot.AtMost`), so that a sorted
list is told by its members: sorting forgets how the slots came in (`Slot.sort_eq_of_perm`), and to
put a slot into its place is to add it anywhere and to sort again (`Slot.insert_eq_sort`). In a
sorted list the instants between two bounds are a stretch (`Index.inRange_eq_filter`).
-/

namespace Logbook

namespace Slot

variable {a b : Slot} {slots : List Slot}

/-- The order of the slots. -/
def AtMost (a b : Slot) : Prop :=
  ¬b.before a

theorem before_iff : a.before b ↔
    a.timestamp < b.timestamp ∨ a.timestamp = b.timestamp ∧ a.position < b.position := by
  rw [before, Bool.or_eq_true, Bool.and_eq_true]
  simp only [decide_eq_true_eq]

theorem atMost_iff : AtMost a b ↔
    a.timestamp < b.timestamp ∨ a.timestamp = b.timestamp ∧ a.position ≤ b.position := by
  rw [AtMost, before_iff]
  omega

/-- The order of the slots when no two are the same. -/
def Earlier (a b : Slot) : Prop :=
  a.timestamp < b.timestamp ∨ a.timestamp = b.timestamp ∧ a.position < b.position

theorem AtMost.earlier (h : AtMost a b) (hne : a ≠ b) : Earlier a b := by
  obtain ⟨s, i⟩ := a
  obtain ⟨t, j⟩ := b
  rw [atMost_iff] at h
  rw [ne_eq, mk.injEq] at hne
  simp only [Earlier] at h ⊢
  omega

instance : DecidableRel AtMost := fun a b => inferInstanceAs (Decidable ¬b.before a)

instance : Std.Total AtMost where
  total a b := by
    rw [atMost_iff, atMost_iff]
    omega

instance : IsTrans Slot AtMost where
  trans a b c := by
    rw [atMost_iff, atMost_iff, atMost_iff]
    omega

instance : Std.Antisymm AtMost where
  antisymm a b := by
    obtain ⟨s, i⟩ := a
    obtain ⟨t, j⟩ := b
    rw [atMost_iff, atMost_iff, mk.injEq]
    intro hab hba
    dsimp only at hab hba
    omega

/-! ## Sorting -/

theorem sort_perm (slots : List Slot) : (sort slots).Perm slots :=
  List.mergeSort_perm ..

theorem mem_sort : a ∈ sort slots ↔ a ∈ slots :=
  (sort_perm slots).mem_iff

theorem pairwise_sort (slots : List Slot) : (sort slots).Pairwise AtMost := by
  have h : (fun a b : Slot => !b.before a) = fun a b => decide (AtMost a b) := by
    funext a b
    cases hb : b.before a <;> simp [AtMost, hb]
  rw [sort, h]
  exact List.pairwise_mergeSort' AtMost slots

/-- A sorted list is told by its members. -/
theorem eq_sort_of_perm {sorted : List Slot} (hs : sorted.Pairwise AtMost)
    (h : sorted.Perm slots) : sorted = sort slots :=
  (h.trans (sort_perm slots).symm).eq_of_pairwise' hs (pairwise_sort slots)

theorem sort_eq_of_perm {slots' : List Slot} (h : slots.Perm slots') : sort slots = sort slots' :=
  eq_sort_of_perm (pairwise_sort slots) ((sort_perm slots).trans h)

/-- What has been sorted before need not be sorted on its own. -/
theorem sort_sort_append (slots slots' : List Slot) :
    sort (sort slots ++ slots') = sort (slots ++ slots') :=
  sort_eq_of_perm ((sort_perm slots).append_right slots')

theorem insert_eq_orderedInsert (s : Slot) (slots : List Slot) :
    s.insert slots = slots.orderedInsert AtMost s := by
  rw [List.orderedInsert_eq_take_drop, insert]
  simp only [AtMost, not_not, Bool.decide_eq_true]

theorem insert_eq_sort (hs : slots.Pairwise AtMost) (s : Slot) :
    s.insert slots = sort (slots ++ [s]) := by
  rw [insert_eq_orderedInsert]
  exact eq_sort_of_perm (hs.orderedInsert s)
    ((List.perm_orderedInsert AtMost s slots).trans (List.perm_append_singleton s slots).symm)

end Slot

/-! ## Stretches -/

section Stretches

variable {α : Type} {p : α → Bool} {l : List α}

/-- Where what comes before a member passes the test if the member does, no later one passes once
    one has failed. -/
theorem takeWhile_eq_filter (h : l.Pairwise fun a b => p b → p a) :
    l.takeWhile p = l.filter p := by
  induction l with
  | nil => rfl
  | cons a l ih =>
    obtain ⟨ha, hl⟩ := List.pairwise_cons.1 h
    by_cases hp : p a
    · rw [List.takeWhile_cons_of_pos hp, List.filter_cons_of_pos hp, ih hl]
    · rw [List.takeWhile_cons_of_neg hp, List.filter_cons_of_neg hp]
      exact (List.filter_eq_nil_iff.2 fun b hb hpb => hp (ha b hb hpb)).symm

theorem dropWhile_eq_filter (h : l.Pairwise fun a b => p b → p a) :
    l.dropWhile p = l.filter (!p ·) := by
  induction l with
  | nil => rfl
  | cons a l ih =>
    obtain ⟨ha, hl⟩ := List.pairwise_cons.1 h
    by_cases hp : p a
    · rw [List.dropWhile_cons_of_pos hp, List.filter_cons_of_neg (by simpa using hp), ih hl]
    · rw [List.dropWhile_cons_of_neg hp, eq_comm, List.filter_eq_self]
      intro b hb
      rcases List.mem_cons.1 hb with rfl | hb
      · simpa using hp
      · simpa using fun hpb => hp (ha b hb hpb)

end Stretches

/-- The slots in a range are those whose instants are in it. -/
theorem Index.inRange_eq_filter {x : Index} (hx : x.timestamps.Pairwise Slot.AtMost)
    (first last : Option Int) :
    x.inRange first last = (x.timestamps.filter fun s =>
      last.all (s.timestamp ≤ ·) && first.all (· ≤ s.timestamp)).map (·.position) := by
  have hle : x.timestamps.Pairwise fun a b => a.timestamp ≤ b.timestamp := hx.imp fun h => by
    rcases Slot.atMost_iff.1 h with h | h <;> omega
  have hlast : x.timestamps.Pairwise fun a b =>
      last.all (b.timestamp ≤ ·) → last.all (a.timestamp ≤ ·) := hle.imp fun h => by
    cases last with
    | none => exact id
    | some t => simpa using Int.le_trans h
  -- The slots that lie before the range stand in front, and are dropped first.
  have hfirst : x.timestamps.Pairwise fun a b =>
      first.any (b.timestamp < ·) → first.any (a.timestamp < ·) := hle.imp fun h => by
    cases first with
    | none => exact id
    | some t => simpa using Int.lt_of_le_of_lt h
  rw [inRange, dropWhile_eq_filter hfirst, takeWhile_eq_filter (hlast.filter _), List.filter_filter]
  congr 2
  funext s
  cases first with
  | none => rfl
  | some t => simp only [Option.any_some, Option.all_some, ← decide_not, Int.not_lt]

end Logbook
