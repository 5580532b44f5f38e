import Mathlib.Order.Bounds.Defs
import Logbook.Search.EditDistance

/-!
# Edits

An edit puts one character into a text, takes one out, or replaces one by another (`Edit`); some
number of them, one after the other, lead from a text to another one (`Edits`). The edit distance is
the least such number (`editDistance_least`), and with it a distance in the usual sense.

Between the two stands the distance by recursion (`distance`), which compares the first characters:

* the table has it at every place, for the two beginnings read so far, the last characters first
  (`foldl_nextRow`);
* as many edits as it tells lead from one text to the other (`edits_distance`);
* an edit changes it by at most one (`Edit.distance_le`), so that no fewer edits do.
-/

namespace Logbook

/-- A single edit of a text. -/
inductive Edit : List Char → List Char → Prop
  | insert (front : List Char) (c : Char) (back : List Char) :
    Edit (front ++ back) (front ++ c :: back)
  | delete (front : List Char) (c : Char) (back : List Char) :
    Edit (front ++ c :: back) (front ++ back)
  | replace (front : List Char) {c d : Char} (back : List Char) (h : c ≠ d) :
    Edit (front ++ c :: back) (front ++ d :: back)

/-- So many edits, one after the other. -/
inductive Edits : Nat → List Char → List Char → Prop
  | refl (a : List Char) : Edits 0 a a
  | step {n : Nat} {a b c : List Char} (h : Edit a b) (rest : Edits n b c) : Edits (n + 1) a c

variable {a b : List Char} {c d : Char} {n m : Nat}

/-! ## Single edits -/

namespace Edit

theorem symm (h : Edit a b) : Edit b a := by
  cases h with
  | insert front c back => exact .delete front c back
  | delete front c back => exact .insert front c back
  | replace front back hne => exact .replace front back hne.symm

theorem cons (c : Char) (h : Edit a b) : Edit (c :: a) (c :: b) := by
  cases h with
  | insert front d back => exact .insert (c :: front) d back
  | delete front d back => exact .delete (c :: front) d back
  | replace front back hne => exact .replace (c :: front) back hne

theorem reverse (h : Edit a b) : Edit a.reverse b.reverse := by
  cases h with
  | insert front c back => simpa using insert back.reverse c front.reverse
  | delete front c back => simpa using delete back.reverse c front.reverse
  | replace front back hne => simpa using replace back.reverse front.reverse hne

theorem length_le (h : Edit a b) : a.length ≤ b.length + 1 := by
  cases h <;> simp only [List.length_append, List.length_cons] <;> omega

end Edit

/-! ## Edits one after the other -/

namespace Edits

theorem zero_iff : Edits 0 a b ↔ a = b := by
  constructor
  · rintro ⟨⟩
    rfl
  · rintro rfl
    exact .refl a

theorem one_iff : Edits 1 a b ↔ Edit a b := by
  constructor
  · rintro (_ | ⟨h, rest⟩)
    exact zero_iff.1 rest ▸ h
  · exact fun h => .step h (.refl b)

theorem trans {other : List Char} (h : Edits n a b) (h' : Edits m b other) :
    Edits (n + m) a other := by
  induction h with
  | refl => rwa [Nat.zero_add]
  | step hedit _ ih =>
    rw [Nat.add_right_comm]
    exact .step hedit (ih h')

theorem symm (h : Edits n a b) : Edits n b a := by
  induction h with
  | refl a => exact .refl a
  | step hedit _ ih => exact ih.trans (one_iff.2 hedit.symm)

theorem cons (c : Char) (h : Edits n a b) : Edits n (c :: a) (c :: b) := by
  induction h with
  | refl a => exact .refl (c :: a)
  | step hedit _ ih => exact .step (hedit.cons c) ih

theorem reverse (h : Edits n a b) : Edits n a.reverse b.reverse := by
  induction h with
  | refl a => exact .refl a.reverse
  | step hedit _ ih => exact .step hedit.reverse ih

theorem min (h : Edits n a b) (h' : Edits m a b) : Edits (min n m) a b := by
  rw [Nat.min_def]
  split
  · exact h
  · exact h'

theorem length_le (h : Edits n a b) : a.length ≤ b.length + n := by
  induction h with
  | refl => exact Nat.le_refl _
  | step hedit _ ih =>
    have := hedit.length_le
    omega

end Edits

/-! ## The distance by recursion -/

/-- The distance of two texts, by what becomes of their first characters. -/
def distance : List Char → List Char → Nat
  | [], b => b.length
  | c :: a, [] => (c :: a).length
  | c :: a, d :: b =>
    min (min (distance a (d :: b) + 1) (distance (c :: a) b + 1))
      (distance a b + if c = d then 0 else 1)
termination_by a b => a.length + b.length

theorem distance_nil_left (b : List Char) : distance [] b = b.length := by
  rw [distance]

theorem distance_nil_right (a : List Char) : distance a [] = a.length := by
  cases a <;> rw [distance]

theorem distance_cons_cons (c d : Char) (a b : List Char) : distance (c :: a) (d :: b) =
    min (min (distance a (d :: b) + 1) (distance (c :: a) b + 1))
      (distance a b + if c = d then 0 else 1) := by
  rw [distance]

/-! ### The table -/

/-- A row of the table: the distances of a text to what was read of another one and to what is
    read of it from there on, the last characters first. -/
def distances (a read : List Char) : List Char → List Nat
  | [] => [distance a read]
  | d :: ds => distance a read :: distances a (d :: read) ds

theorem distances_eq_cons (a read ds : List Char) :
    ∃ above, distances a read ds = distance a read :: above := by
  cases ds with
  | nil => exact ⟨[], rfl⟩
  | cons d ds => exact ⟨distances a (d :: read) ds, rfl⟩

theorem distances_nil (read ds : List Char) :
    distances [] read ds = List.range' read.length (ds.length + 1) := by
  induction ds generalizing read with
  | nil => simp [distances, distance_nil_left]
  | cons d ds ih => rw [distances, distance_nil_left, ih, List.length_cons, List.length_cons,
      ← List.range'_succ]

/-- A row of the table is filled from the row above it. -/
theorem distanceRow_distances (c : Char) (a read ds : List Char) :
    distance (c :: a) read :: distanceRow c (distance (c :: a) read) ds (distances a read ds) =
      distances (c :: a) read ds := by
  induction ds generalizing read with
  | nil => rfl
  | cons d ds ih =>
    -- The entries above, to the left and between them are the three ways to begin with `c` and `d`.
    obtain ⟨above, habove⟩ := distances_eq_cons a (d :: read) ds
    have ih := ih (d :: read)
    rw [habove, distance_cons_cons] at ih
    rw [distances, distances, habove, distanceRow, ih]

theorem nextRow_distances (b : List Char) (c : Char) (a : List Char) :
    nextRow b (distances a [] b) c = distances (c :: a) [] b := by
  obtain ⟨above, habove⟩ := distances_eq_cons a [] b
  have hleft : (distances a [] b).headD 0 + 1 = distance (c :: a) [] := by
    rw [habove, List.headD_cons, distance_nil_right, distance_nil_right, List.length_cons]
  rw [nextRow, hleft, distanceRow_distances]

/-- With each character that is read, the row becomes that of what was read so far, the last
    character first. -/
theorem foldl_nextRow (b done : List Char) (a : List Char) :
    a.foldl (nextRow b) (distances done [] b) = distances (a.reverse ++ done) [] b := by
  induction a generalizing done with
  | nil => rfl
  | cons c a ih =>
    rw [List.foldl_cons, nextRow_distances, ih, List.reverse_cons, List.append_assoc,
      List.singleton_append]

theorem getLastD_distances (a read ds : List Char) :
    (distances a read ds).getLastD 0 = distance a (ds.reverse ++ read) := by
  induction ds generalizing read with
  | nil => rfl
  | cons d ds ih =>
    obtain ⟨above, habove⟩ := distances_eq_cons a (d :: read) ds
    rw [List.reverse_cons, List.append_assoc, List.singleton_append, ← ih, distances, habove]
    rfl

theorem editDistance_eq (a b : List Char) : editDistance a b = distance a.reverse b.reverse := by
  have hfirst : List.range (b.length + 1) = distances [] [] b := by
    rw [distances_nil, List.range_eq_range', List.length_nil]
  rw [editDistance, hfirst, foldl_nextRow, getLastD_distances, List.append_nil, List.append_nil]

/-! ### As many edits, and no fewer -/

theorem distance_self (a : List Char) : distance a a = 0 := by
  induction a with
  | nil => exact distance_nil_left []
  | cons c a ih => rw [distance_cons_cons, ih, if_pos rfl, Nat.min_zero]

theorem edits_distance (a b : List Char) : Edits (distance a b) a b := by
  fun_induction distance a b with
  | case1 b =>
    induction b with
    | nil => exact .refl []
    | cons d b ih => exact ih.trans (Edits.one_iff.2 (.insert [] d b))
  | case2 c a =>
    induction a generalizing c with
    | nil => exact .step (.delete [] c []) (.refl [])
    | cons d a ih => exact .step (.delete [] c (d :: a)) (ih d)
  | case3 c a d b ihdelete ihinsert ihboth =>
    -- Each of the three ways leads there, so the shortest of them does.
    have hdelete : Edits (distance a (d :: b) + 1) (c :: a) (d :: b) :=
      .step (.delete [] c a) ihdelete
    have hinsert : Edits (distance (c :: a) b + 1) (c :: a) (d :: b) :=
      ihinsert.trans (Edits.one_iff.2 (.insert [] d b))
    have hboth : Edits (distance a b + if c = d then 0 else 1) (c :: a) (d :: b) := by
      split
      next heq => exact heq ▸ ihboth.cons c
      next hne => exact .step (.replace [] a hne) (ihboth.cons d)
    exact (hdelete.min hinsert).min hboth

/-- A character in front adds at most one to the distance, on either side. -/
theorem distance_cons_left_le (c : Char) (a b : List Char) :
    distance (c :: a) b ≤ distance a b + 1 := by
  cases b with
  | nil => exact Nat.le_of_eq (by rw [distance_nil_right, distance_nil_right, List.length_cons])
  | cons d b =>
    rw [distance_cons_cons]
    omega

theorem distance_cons_right_le (d : Char) (a b : List Char) :
    distance a (d :: b) ≤ distance a b + 1 := by
  cases a with
  | nil => exact Nat.le_of_eq (by rw [distance_nil_left, distance_nil_left, List.length_cons])
  | cons c a =>
    rw [distance_cons_cons]
    omega

/-- A character in front takes away at most one from the distance. -/
theorem distance_le_cons_left (c : Char) (a b : List Char) :
    distance a b ≤ distance (c :: a) b + 1 := by
  induction b with
  | nil =>
    rw [distance_nil_right, distance_nil_right, List.length_cons]
    omega
  | cons d b ih =>
    have hinsert := distance_cons_right_le d a b
    rw [distance_cons_cons]
    omega

/-- To replace the first character changes the distance by at most one. -/
theorem distance_replace_le (c d : Char) (a other : List Char) :
    distance (c :: a) other ≤ distance (d :: a) other + 1 := by
  induction other with
  | nil =>
    rw [distance_nil_right, distance_nil_right, List.length_cons, List.length_cons]
    omega
  | cons x other ih =>
    rw [distance_cons_cons, distance_cons_cons]
    split <;> split <;> omega

/-- What changes distances by at most one does so behind a common character too. -/
theorem distance_cons_le_cons (h : ∀ other, distance a other ≤ distance b other + 1)
    (c : Char) (other : List Char) : distance (c :: a) other ≤ distance (c :: b) other + 1 := by
  induction other with
  | nil =>
    have := h []
    rw [distance_nil_right, distance_nil_right] at this ⊢
    rw [List.length_cons, List.length_cons]
    omega
  | cons x other ih =>
    -- Each way to begin for the second text is one for the first; what follows differs by one.
    have hdelete := h (x :: other)
    have hboth := h other
    rw [distance_cons_cons, distance_cons_cons]
    omega

theorem distance_append_le_append (h : ∀ other, distance a other ≤ distance b other + 1)
    (front : List Char) :
    ∀ other, distance (front ++ a) other ≤ distance (front ++ b) other + 1 := by
  induction front with
  | nil => exact h
  | cons c front ih => exact distance_cons_le_cons ih c

/-- A single edit changes distances by at most one. -/
theorem Edit.distance_le (h : Edit a b) (other : List Char) :
    distance a other ≤ distance b other + 1 := by
  cases h with
  | insert front c back =>
    exact distance_append_le_append (distance_le_cons_left c back) front other
  | delete front c back =>
    exact distance_append_le_append (distance_cons_left_le c back) front other
  | replace front back hne =>
    exact distance_append_le_append (distance_replace_le _ _ back) front other

theorem Edits.distance_le (h : Edits n a b) : distance a b ≤ n := by
  induction h with
  | refl a => exact Nat.le_of_eq (distance_self a)
  | step hedit _ ih => exact Nat.le_trans (hedit.distance_le _) (Nat.succ_le_succ ih)

/-! ## The edit distance -/

theorem edits_editDistance (a b : List Char) : Edits (editDistance a b) a b := by
  have h := (edits_distance a.reverse b.reverse).reverse
  rwa [List.reverse_reverse, List.reverse_reverse, ← editDistance_eq] at h

theorem Edits.editDistance_le (h : Edits n a b) : editDistance a b ≤ n :=
  editDistance_eq a b ▸ h.reverse.distance_le

/-- The edit distance is the least number of edits that lead from one text to the other. So it is
    the same in both directions, zero between equal texts only, at least the difference of the
    lengths, and not longer than by way of a third text. -/
theorem editDistance_least (a b : List Char) :
    IsLeast {n | Edits n a b} (editDistance a b) ∧
      editDistance a b = editDistance b a ∧
      (editDistance a b = 0 ↔ a = b) ∧
      a.length ≤ b.length + editDistance a b ∧ b.length ≤ a.length + editDistance a b ∧
      ∀ other, editDistance a other ≤ editDistance a b + editDistance b other := by
  have hedits := edits_editDistance a b
  refine ⟨⟨hedits, fun n h => Edits.editDistance_le h⟩, ?_, ?_, hedits.length_le,
    hedits.symm.length_le, fun other => (hedits.trans (edits_editDistance b other)).editDistance_le⟩
  · exact Nat.le_antisymm (edits_editDistance b a).symm.editDistance_le
      hedits.symm.editDistance_le
  · constructor
    · exact fun hzero => Edits.zero_iff.1 (hzero ▸ hedits)
    · exact fun heq => Nat.le_zero.1 (Edits.zero_iff.2 heq).editDistance_le

example : editDistance "kitten".toList "sitting".toList = 3 := by decide

end Logbook
