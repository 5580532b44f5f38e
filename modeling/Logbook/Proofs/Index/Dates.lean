import Logbook.Proofs.Index.Ranges

/-!
# Dates as bounds

A date in a query becomes an instant, the instant a number in double precision, and where an index
is asked, the number an integer of 64 bits again, next to which the bounds of a range lie. A scan
does not go this way: it rounds the instant of every entry to double precision and compares the
numbers.

Both find the same, for a date is read as one of the integers that are exact in double precision
(`Instant.natAbs_lt_of_ofText?`). So it comes back as it was, its neighbours lie well within 64 bits
(`clamp64_of_natAbs_le`), and an instant of an entry, however far it is rounded, stays on its side of
the date (`Source.compares_ofInt_iff`).
-/

namespace Logbook

namespace Source

variable {op : CompareOp} {t : Int} {first last : Option Int}

/-- The bounds made of an exact integer are those of the comparison of the rounded numbers. -/
theorem bounds?_ofInt (ht : t.natAbs < exactBound)
    (h : bounds? op (Double.ofInt t).toInt64 = some (first, last)) (u : Int) :
    ((∀ a ∈ first, a ≤ u) ∧ ∀ b ∈ last, u ≤ b) ↔
      (FieldValue.number (.ofInt u)).compares op (.number (.ofInt t)) := by
  rw [Double.toInt64_ofInt (Nat.le_of_lt ht)] at h
  rw [← holds_compare_iff ht h, compares_ofInt_iff op u ht]

/-- The slots in a range of such bounds are those that a scan by rounded numbers finds. -/
theorem inRange_ofInt {x : Index} (hx : x.timestamps.Pairwise Slot.AtMost)
    (ht : t.natAbs < exactBound)
    (h : bounds? op (Double.ofInt t).toInt64 = some (first, last)) :
    x.inRange first last = (x.timestamps.filter fun s =>
      (FieldValue.number (.ofInt s.timestamp)).compares op (.number (.ofInt t))).map
        (·.position) := by
  have htest : ∀ s ∈ x.timestamps,
      (last.all (s.timestamp ≤ ·) && first.all (· ≤ s.timestamp)) =
        (FieldValue.number (.ofInt s.timestamp)).compares op (.number (.ofInt t)) := by
    intro s _
    rw [Bool.eq_iff_iff, ← bounds?_ofInt ht h, Bool.and_eq_true, and_comm, Option.all_eq_true,
      Option.all_eq_true]
    simp only [decide_eq_true_eq, Option.mem_def]
  rw [Index.inRange_eq_filter hx, List.filter_congr htest]

end Source

/-- A date is an exact integer of double precision: as a literal it is the number of its instant,
    from which the instant comes back, and the integers next to it are not cut off. For each
    comparison that an index answers, the bounds that are made of it hold of those instants whose
    rounded numbers compare so with that of the date, whatever the instants; and whatever was done
    with an index that was empty at first, the range is what a scan of its slots by rounded numbers
    gives. -/
theorem Instant.ofText?_exact {raw : String} {t : Int} (h : ofText? raw = some t) :
    t.natAbs < 2 ^ 53 ∧
    (Literal.string raw).coerce "timestamp" = .number (.ofInt t) ∧
    (Double.ofInt t).toInt64 = t ∧
    clamp64 (t + 1) = t + 1 ∧ clamp64 (t - 1) = t - 1 ∧
    ∀ op ≠ CompareOp.ne, ∃ first last,
      Source.bounds? op (Double.ofInt t).toInt64 = some (first, last) ∧
      (∀ u : Int, ((∀ a ∈ first, a ≤ u) ∧ ∀ b ∈ last, u ≤ b) ↔
        (FieldValue.number (.ofInt u)).compares op (.number (.ofInt t))) ∧
      ∀ (settings : Settings) (steps : List Index.Step),
        let x := (Index.empty settings).after steps
        x.inRange first last = (x.timestamps.filter fun s =>
          (FieldValue.number (.ofInt s.timestamp)).compares op (.number (.ofInt t))).map
            (·.position) := by
  have ht : t.natAbs < exactBound := natAbs_lt_of_ofText? h
  have hcoerce : (Literal.string raw).coerce "timestamp" = .number (.ofInt t) := by
    simp only [Literal.coerce, Literal.string, h]
  have hback : (Double.ofInt t).toInt64 = t := Double.toInt64_ofInt (Nat.le_of_lt ht)
  have hnext : clamp64 (t + 1) = t + 1 := clamp64_of_natAbs_le (by omega)
  have hprevious : clamp64 (t - 1) = t - 1 := clamp64_of_natAbs_le (by omega)
  refine ⟨ht, hcoerce, hback, hnext, hprevious, fun op hop => ?_⟩
  obtain ⟨first, last, hbounds⟩ := Source.exists_bounds? hop (Double.ofInt t).toInt64
  refine ⟨first, last, hbounds, Source.bounds?_ofInt ht hbounds, fun settings steps => ?_⟩
  have hsorted : ((Index.empty settings).after steps).timestamps.Pairwise Slot.AtMost :=
    Index.timestamps_after_empty settings steps ▸ Slot.pairwise_sort _
  exact Source.inRange_ofInt hsorted ht hbounds

/-- The last instant that can be written, which is in a leap second, and the last one of 64 bits,
    which is rounded to a number past all of them. -/
theorem Instant.ofText?_exact_last :
    let raw := "+262142-12-31 23:59:60.999"
    let t : Int := 8210266876800999
    let u : Int := 0x7FFFFFFFFFFFFFFF
    ofText? raw = some t ∧ t.natAbs < 2 ^ 53 ∧ (Double.ofInt t).toInt64 = t ∧
      ∃ first last, Source.bounds? .gt (Double.ofInt t).toInt64 = some (first, last) ∧
        (∀ a ∈ first, a ≤ u) ∧ (∀ b ∈ last, u ≤ b) ∧
        (FieldValue.number (.ofInt u)).compares .gt (.number (.ofInt t)) := by
  intro raw t u
  have hread : ofText? raw = some t := by decide +kernel
  obtain ⟨hexact, -, hback, -, -, hops⟩ := ofText?_exact hread
  obtain ⟨first, last, hbounds, hagree, -⟩ := hops .gt (by decide)
  have hin : (∀ a ∈ first, a ≤ u) ∧ ∀ b ∈ last, u ≤ b := by
    rw [hback] at hbounds
    obtain ⟨rfl, rfl⟩ := Prod.mk.inj (Option.some.inj hbounds)
    decide
  exact ⟨hread, hexact, hback, first, last, hbounds, hin.1, hin.2, (hagree u).1 hin⟩

end Logbook
