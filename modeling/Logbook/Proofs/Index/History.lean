import Logbook.Proofs.Index.Slots

/-!
# How an index came about

Entries may come into an index all at once, in batches or one by one. As long as every entry comes
at the position after the last one, this makes no difference at all: the index is the one that is
built of all entries (`Index.Follows.build_eq`), since

* postings only grow at their ends, so that one batch after another is one batch
  (`Index.addBatch_addBatch`);
* slots are put in order, and a sorted list is told by its members (`Index.add_eq_addBatch`).
-/

namespace Logbook.Index

variable {x : Index} {es : List Entry}

/-! ## Posting -/

/-- Adds entries at positions under their keys. -/
def postAll (x : Index) (log : List (Entry × Nat)) : Index :=
  log.foldl (fun x p => x.post p.1 p.2) x

/-- The slots of entries at positions. -/
def slots (log : List (Entry × Nat)) : List Slot :=
  log.filterMap fun p => slot? p.1 p.2

theorem addBatch_eq (x : Index) (es : List Entry) (start : Nat) :
    x.addBatch es start = { x.postAll (placed es start) with
      timestamps := Slot.sort ((x.postAll (placed es start)).timestamps ++ slots (placed es start))
      total := max (x.postAll (placed es start)).total (start + es.length) } :=
  rfl

theorem postAll_cons (x : Index) (p : Entry × Nat) (log : List (Entry × Nat)) :
    x.postAll (p :: log) = (x.post p.1 p.2).postAll log :=
  rfl

theorem postAll_append (x : Index) (log log' : List (Entry × Nat)) :
    x.postAll (log ++ log') = (x.postAll log).postAll log' :=
  List.foldl_append

/-- Posting has nothing to do with instants or the total. -/
theorem postAll_with (x : Index) (timestamps : List Slot) (total : Nat)
    (log : List (Entry × Nat)) :
    postAll { x with timestamps, total } log = { x.postAll log with timestamps, total } := by
  induction log generalizing x with
  | nil => rfl
  | cons p log ih => exact ih (x.post p.1 p.2)

theorem postAll_same (x : Index) (log : List (Entry × Nat)) :
    (x.postAll log).timestamps = x.timestamps ∧ (x.postAll log).total = x.total ∧
      (x.postAll log).keywordLimit = x.keywordLimit ∧
      (x.postAll log).minKeywordLength = x.minKeywordLength := by
  induction log generalizing x with
  | nil => exact ⟨rfl, rfl, rfl, rfl⟩
  | cons p log ih => exact ih (x.post p.1 p.2)

theorem postAll_timestamps (x : Index) (log : List (Entry × Nat)) :
    (x.postAll log).timestamps = x.timestamps :=
  (postAll_same x log).1

theorem postAll_total (x : Index) (log : List (Entry × Nat)) :
    (x.postAll log).total = x.total :=
  (postAll_same x log).2.1

/-- A batch is sorted in among the slots that are there. -/
theorem timestamps_addBatch (x : Index) (es : List Entry) (start : Nat) :
    (x.addBatch es start).timestamps = Slot.sort (x.timestamps ++ slots (placed es start)) := by
  rw [addBatch_eq, postAll_timestamps]

theorem clear_postAll (x : Index) (log : List (Entry × Nat)) :
    (x.postAll log).clear = x.clear := by
  obtain ⟨-, -, hlimit, hlength⟩ := postAll_same x log
  rw [clear, clear, hlimit, hlength]

/-! ## Batches -/

theorem placed_append (es es' : List Entry) (start : Nat) :
    placed (es ++ es') start = placed es start ++ placed es' (start + es.length) :=
  List.zipIdx_append

theorem slots_append (log log' : List (Entry × Nat)) :
    slots (log ++ log') = slots log ++ slots log' :=
  List.filterMap_append

/-- A batch right after another one is one batch with it. -/
theorem addBatch_addBatch (x : Index) (es es' : List Entry) (start : Nat) :
    (x.addBatch es start).addBatch es' (start + es.length) = x.addBatch (es ++ es') start := by
  -- What the first batch does to the slots and the total is done again by the second one.
  simp only [addBatch_eq, postAll_with, placed_append, postAll_append, slots_append,
    postAll_timestamps, postAll_total, Slot.sort_sort_append, List.append_assoc, Nat.max_assoc,
    List.length_append]
  rw [Nat.max_eq_right (by omega : start + es.length ≤ start + es.length + es'.length),
    Nat.add_assoc]

theorem clear_addBatch (x : Index) (es : List Entry) (start : Nat) :
    (x.addBatch es start).clear = x.clear :=
  clear_postAll x (placed es start)

theorem add_eq (x : Index) (e : Entry) (position : Nat) :
    x.add e position = { x.post e position with
      timestamps := (slot? e position).elim x.timestamps (·.insert x.timestamps)
      total := max x.total (position + 1) } := by
  unfold add
  cases slot? e position <;> rfl

/-- An entry alone is a batch. -/
theorem add_eq_addBatch (hx : x.timestamps.Pairwise Slot.AtMost) (e : Entry) (position : Nat) :
    x.add e position = x.addBatch [e] position := by
  -- An entry without an instant leaves the slots as they are, but a batch sorts them even so.
  have hslots : slots (placed [e] position) = (slot? e position).toList := by
    simp only [placed, List.zipIdx_singleton, slots, List.filterMap_cons, List.filterMap_nil]
    cases slot? e position <;> rfl
  have htimes : (slot? e position).elim x.timestamps (·.insert x.timestamps) =
      Slot.sort (x.timestamps ++ slots (placed [e] position)) := by
    rw [hslots]
    cases slot? e position with
    | none =>
      rw [Option.toList_none, List.append_nil]
      exact Slot.eq_sort_of_perm hx (List.Perm.refl _)
    | some s => exact Slot.insert_eq_sort hx s
  rw [add_eq, addBatch_eq, postAll_timestamps, htimes]
  rfl

/-! ## Building -/

theorem clear_build (x : Index) (es : List Entry) : (x.build es).clear = x.clear :=
  clear_addBatch x.clear es 0

theorem timestamps_build (x : Index) (es : List Entry) :
    (x.build es).timestamps = Slot.sort (slots (placed es 0)) :=
  timestamps_addBatch x.clear es 0

theorem pairwise_timestamps_build (x : Index) (es : List Entry) :
    (x.build es).timestamps.Pairwise Slot.AtMost :=
  timestamps_build x es ▸ Slot.pairwise_sort _

theorem addBatch_build (x : Index) (es es' : List Entry) :
    (x.build es).addBatch es' es.length = x.build (es ++ es') := by
  rw [build, build, ← addBatch_addBatch x.clear es es' 0, Nat.zero_add]

theorem add_build (x : Index) (es : List Entry) (e : Entry) :
    (x.build es).add e es.length = x.build (es ++ [e]) := by
  rw [add_eq_addBatch (pairwise_timestamps_build x es), addBatch_build]

theorem build_build (x : Index) (es es' : List Entry) : (x.build es).build es' = x.build es' := by
  rw [build, clear_build, build]

theorem build_empty (s : Settings) : (empty s).build [] = empty s := by
  show { empty s with timestamps := Slot.sort [] } = empty s
  rw [Slot.sort, List.mergeSort_nil]
  rfl

theorem total_build (x : Index) (es : List Entry) : (x.build es).total = es.length := by
  rw [build, addBatch_eq]
  show max (x.clear.postAll _).total (0 + es.length) = es.length
  rw [postAll_total, Nat.zero_add]
  exact Nat.zero_max es.length

/-- An index that was built of the first entries, and to which all others have been added in order,
    each at its own position. -/
inductive Follows : Index → List Entry → Prop
  | build (x : Index) (es : List Entry) : Follows (x.build es) es
  | add {x : Index} {es : List Entry} (h : Follows x es) (e : Entry) :
      Follows (x.add e es.length) (es ++ [e])
  | addBatch {x : Index} {es : List Entry} (h : Follows x es) (es' : List Entry) :
      Follows (x.addBatch es' es.length) (es ++ es')

/-- It makes no difference how the entries came into an index. -/
theorem Follows.build_eq (h : Follows x es) : x.build es = x := by
  induction h with
  | build x es => exact build_build x es es
  | @add x es _ e ih =>
    rw [← ih, add_build, build_build]
  | @addBatch x es _ es' ih =>
    rw [← ih, addBatch_build, build_build]

end Logbook.Index
