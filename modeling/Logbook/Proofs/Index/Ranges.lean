import Logbook.Proofs.Index.Bounds

/-!
# Ranges of instants

The slots of an index are kept in order in two ways, by sorting all of them after a batch and by
putting one into its place, and each way relies on what the other one has left. Either way a step
puts its own slots among those that are there and leaves all in order
(`Index.timestamps_perform`). So whatever was done with an index, its slots are those that came in
since it was last built anew (`Index.timestamps_after_empty`), also where entries came in again or
out of turn, and a range of instants gives all positions with an instant in it, in order.
-/

namespace Logbook.Index

/-- The entries that a step adds, with their positions. -/
def Step.placed : Step → List (Entry × Nat)
  | .build es => Index.placed es 0
  | .addBatch es start => Index.placed es start
  | .add e position => [(e, position)]

variable {x : Index}

/-- A step sorts its slots in among those that it keeps. -/
theorem timestamps_perform (hx : x.timestamps.Pairwise Slot.AtMost) (t : Step) :
    (x.perform t).timestamps =
      Slot.sort ((if t.isBuild then [] else x.timestamps) ++ slots t.placed) := by
  cases t with
  | build es => exact timestamps_build x es
  | addBatch es start => exact timestamps_addBatch x es start
  | add e position =>
    -- Only in sorted slots is there a place of its own for a slot.
    rw [perform, add_eq_addBatch hx]
    exact timestamps_addBatch x [e] position

/-- The slots are those of the steps since the last build, in order. -/
theorem timestamps_after_empty (settings : Settings) (steps : List Step) :
    ((empty settings).after steps).timestamps =
      Slot.sort (slots ((sinceBuild steps).flatMap Step.placed)) := by
  induction steps using List.reverseRecOn with
  | nil => exact (List.mergeSort_nil).symm
  | append_singleton steps t ih =>
    have hsorted : ((empty settings).after steps).timestamps.Pairwise Slot.AtMost :=
      ih ▸ Slot.pairwise_sort _
    rw [after_concat, timestamps_perform hsorted, sinceBuild_concat]
    -- A build forgets all slots, and any other step keeps them.
    split
    · rw [List.nil_append, List.flatMap_singleton]
    · rw [ih, Slot.sort_sort_append, ← slots_append, List.flatMap_append, List.flatMap_singleton]

/-- Whatever was done with an index that was empty at first: its slots are in order, one for each
    time that an entry with an instant came in since it was last built anew, and a range gives the
    positions of those slots that have their instants in it, in the same order. -/
theorem after_empty_timestamps (settings : Settings) (steps : List Step) :
    let x := (empty settings).after steps
    x.timestamps.Pairwise Slot.AtMost ∧
    x.timestamps.Perm (slots ((sinceBuild steps).flatMap Step.placed)) ∧
    ∀ first last : Option Int,
      x.inRange first last = (x.timestamps.filter fun s =>
        (∀ a ∈ first, a ≤ s.timestamp) ∧ ∀ b ∈ last, s.timestamp ≤ b).map (·.position) := by
  intro x
  have heq : x.timestamps = Slot.sort (slots ((sinceBuild steps).flatMap Step.placed)) :=
    timestamps_after_empty settings steps
  have hsorted : x.timestamps.Pairwise Slot.AtMost := heq ▸ Slot.pairwise_sort _
  refine ⟨hsorted, heq ▸ Slot.sort_perm _, fun first last => ?_⟩
  rw [inRange_eq_filter hsorted]
  congr 2
  funext s
  cases first <;> cases last <;> simp [Bool.and_comm]

example :
    let a : Entry := .text "2024-05-02 up"
    let b : Entry := .text "2024-05-01 down"
    let x := (empty {}).after [.add b 9, .build [], .add a 7, .add b 3, .add a 2, .add a 7]
    x.inRange none none = [3, 2, 7, 7] ∧ x.inRange (some 1714608000000) none = [2, 7, 7] ∧
      x.inRange (some 1714608000000) (some 1714521600000) = [] := by
  decide +kernel

end Logbook.Index
