import Logbook.Proofs.Index.Answers
import Logbook.Proofs.Query.Strict

/-!
# Opposite comparisons

Every operator has an opposite one (`CompareOp.opposite`), which holds of two values that compare if
and only if the operator does not. A literal of a query that was read compares with every value that
a field may have: only a number that is none compares with nothing, and neither a literal nor a
field gives one (`FieldValue.compares_opposite`). So, of the entries that have a field, a comparison
and the opposite one leave out none, and share none (`Query.holds_opposite_iff`).

An entry without the field is found by neither of them, but by their negations. This is why an
operator has an opposite of its own, beside the negation of queries.
-/

namespace Logbook

namespace CompareOp

/-- The operator that holds of two values that compare if another one does not. -/
def opposite : CompareOp → CompareOp
  | .eq => .ne
  | .ne => .eq
  | .gt => .le
  | .le => .gt
  | .lt => .ge
  | .ge => .lt

theorem holds_opposite (op : CompareOp) (o : Ordering) :
    op.opposite.holds o = !op.holds o := by
  cases op <;> cases o <;> rfl

end CompareOp

namespace FieldValue

variable {actual expected : FieldValue}

/-- Whether two texts are in the relation of the operator, for equality without regard to case. -/
def textsCompare (a : List Char) (op : CompareOp) (b : List Char) : Bool :=
  match op with
  | .eq => Text.lower a = Text.lower b
  | .ne => Text.lower a ≠ Text.lower b
  | op => op.holds (compareOfLessAndEq a b)

theorem textsCompare_opposite (a : List Char) (op : CompareOp) (b : List Char) :
    textsCompare a op.opposite b = !textsCompare a op b := by
  cases op with
  | eq | ne => simp [textsCompare, CompareOp.opposite]
  | gt => exact CompareOp.holds_opposite .gt _
  | lt => exact CompareOp.holds_opposite .lt _
  | ge => exact CompareOp.holds_opposite .ge _
  | le => exact CompareOp.holds_opposite .le _

/-- Two values are compared as numbers if they both are, and otherwise by their texts. -/
theorem compares_cases (actual expected : FieldValue) :
    (∃ a b, actual = .number a ∧ expected = .number b) ∨
      ∀ op, actual.compares op expected = textsCompare actual.shown op expected.shown := by
  cases actual <;> cases expected
  case number.number a b => exact .inl ⟨a, b, rfl, rfl⟩
  all_goals exact .inr fun op => by cases op <;> rfl

theorem compares_opposite (ha : actual.IsNumeric) (he : expected.IsNumeric) (op : CompareOp) :
    actual.compares op.opposite expected = !actual.compares op expected := by
  rcases compares_cases actual expected with ⟨a, b, rfl, rfl⟩ | htexts
  · -- Only here would a number that is none make both comparisons fail.
    obtain ⟨o, ho⟩ := Double.exists_compare? ha he
    simp only [compares, ho, Option.any_some, op.holds_opposite]
  · rw [htexts, htexts, textsCompare_opposite]

end FieldValue

namespace Query

variable {e : Entry} {field : String} {v : Literal}

/-- The opposite comparison holds where the field is there and the comparison does not hold. -/
theorem holds_opposite_iff (hv : v.IsWellFormed) (op : CompareOp) :
    Holds e (.compare field op.opposite v) ↔
      (e.field? field).isSome ∧ ¬Holds e (.compare field op v) := by
  cases hfield : e.field? field with
  | none => simp [Holds, hfield]
  | some actual =>
    rw [holds_compare_of_field? hfield, holds_compare_of_field? hfield, FieldValue.compares_opposite
      (Entry.isNumeric_of_field? hfield) (hv.isNumeric_coerce field)]
    simp

theorem isSome_of_holds_compare {op : CompareOp} (h : Holds e (.compare field op v)) :
    (e.field? field).isSome := by
  obtain ⟨actual, hactual, -⟩ := h
  rw [hactual]
  rfl

end Query

theorem Outcome.isWellFormed_of_mem_leaves {s field : String} {q : Query} {op : CompareOp}
    {v : Literal} (h : ofText s = .query q) (hleaf : .compare field op v ∈ q.leaves) :
    v.IsWellFormed := by
  obtain ⟨ts, -, -, hderives⟩ := ofText_eq_query_iff.1 h
  obtain ⟨w, hcondition⟩ := hderives.isCondition_of_mem_leaves _ hleaf
  cases hcondition with
  | comparison _ _ hv => exact hv.isWellFormed

namespace Source

/-- Whether there is an entry with a field at a position. -/
def HasAt (s : Source) (field : String) (i : Nat) : Prop :=
  ∃ e, s.entries[i]? = some e ∧ (e.field? field).isSome

variable {s : Source} {field : String} {v : Literal}

theorem HoldsAt.hasAt {op : CompareOp} {i : Nat} (h : s.HoldsAt (.compare field op v) i) :
    s.HasAt field i := by
  obtain ⟨e, he, hq⟩ := h
  exact ⟨e, he, Query.isSome_of_holds_compare hq⟩

theorem holdsAt_opposite_iff (hv : v.IsWellFormed) (op : CompareOp) (i : Nat) :
    s.HoldsAt (.compare field op.opposite v) i ↔
      s.HasAt field i ∧ ¬s.HoldsAt (.compare field op v) i := by
  constructor
  · rintro ⟨e, he, hq⟩
    rw [Query.holds_opposite_iff hv] at hq
    refine ⟨⟨e, he, hq.1⟩, ?_⟩
    rintro ⟨e', he', hq'⟩
    obtain rfl := Option.some.inj (he.symm.trans he')
    exact hq.2 hq'
  · rintro ⟨⟨e, he, hfield⟩, hnot⟩
    exact ⟨e, he, (Query.holds_opposite_iff hv op).2 ⟨hfield, fun hq => hnot ⟨e, he, hq⟩⟩⟩

/-- Whatever a field is compared with in a query that was read, and whether there is an index or
    not: opposite comparisons find no entry in common, and together all that have the field. So one
    of them finds what the negation of the other one does, as far as the field is there. -/
theorem answer_opposite {text : String} {q : Query} (h : Outcome.ofText text = .query q)
    {written : CompareOp} (hleaf : .compare field written v ∈ q.leaves) (entries : Array Entry)
    (index : Option Index) (hindex : ∀ x ∈ index, x.Follows entries.toList) (op : CompareOp)
    (i : Nat) :
    let s : Source := ⟨entries, index⟩
    let found := (s.answer (.compare field op v)).positions
    let opposite := (s.answer (.compare field op.opposite v)).positions
    ¬(i ∈ found ∧ i ∈ opposite) ∧
      (i ∈ found ∨ i ∈ opposite ↔ s.HasAt field i) ∧
      (i ∈ opposite ↔ i ∈ (s.answer (.not (.compare field op v))).positions ∧ s.HasAt field i) := by
  intro s found opposite
  have hs : s.UpToDate := hindex
  have hopposite : s.HoldsAt (.compare field op.opposite v) i ↔
      s.HasAt field i ∧ ¬s.HoldsAt (.compare field op v) i :=
    holdsAt_opposite_iff (Outcome.isWellFormed_of_mem_leaves h hleaf) op i
  simp only [found, opposite, hs.mem_answer, hopposite, holdsAt_not]
  refine ⟨fun hboth => hboth.2.2 hboth.1, ?_, ?_⟩
  · refine ⟨fun hor => hor.elim HoldsAt.hasAt And.left, fun hhas => ?_⟩
    by_cases hholds : s.HoldsAt (.compare field op v) i
    · exact .inl hholds
    · exact .inr ⟨hhas, hholds⟩
  · constructor
    · rintro ⟨⟨e, he, hfield⟩, hnot⟩
      exact ⟨⟨(Array.getElem?_eq_some_iff.1 he).1, hnot⟩, e, he, hfield⟩
    · rintro ⟨⟨-, hnot⟩, hhas⟩
      exact ⟨hhas, hnot⟩

/-- A number, a text and nothing, compared with a number; the text does so character by
    character. -/
theorem answer_opposite_mixed :
    let a : Entry := .unknownJson (.object [("n", .integer 5)])
    let b : Entry := .unknownJson (.object [("n", .string "x")])
    let c : Entry := .text "n"
    let x := ((Index.empty {}).build [a]).addBatch [b, c] 1
    let s : Source := ⟨#[a, b, c], some x⟩
    let v : Literal := ⟨"7", .number⟩
    Outcome.ofText "level=warn OR NOT n=7" =
        .query (.or [.compare "level" .eq (.string "warn"), .not (.compare "n" .eq v)]) ∧
      x.Follows [a, b, c] ∧
      (s.answer (.compare "n" .gt v)).positions = [1] ∧
      1 ∉ (s.answer (.compare "n" .le v)).positions ∧
      0 ∈ (s.answer (.compare "n" .le v)).positions ∧
      0 ∈ (s.answer (.not (.compare "n" .gt v))).positions ∧
      2 ∉ (s.answer (.compare "n" .le v)).positions := by
  intro a b c x s v
  have hquery : Outcome.ofText "level=warn OR NOT n=7" =
      .query (.or [.compare "level" .eq (.string "warn"), .not (.compare "n" .eq v)]) := by
    decide +kernel
  have hx : x.Follows [a, b, c] := .addBatch (.build (.empty {}) [a]) [b, c]
  have hindex : ∀ y ∈ some x, y.Follows [a, b, c] := fun y hy => Option.mem_some.1 hy ▸ hx
  have hleaf : .compare "n" .eq v ∈
      (Query.or [.compare "level" .eq (.string "warn"), .not (.compare "n" .eq v)]).leaves := by
    rw [Query.leaves_or]
    exact List.mem_cons_of_mem _ List.mem_cons_self
  have hgt : (s.answer (.compare "n" .gt v)).positions = [1] := by decide +kernel
  have h := answer_opposite hquery hleaf #[a, b, c] (some x) hindex .gt
  have hone : 1 ∈ (s.answer (.compare "n" .gt v)).positions := hgt ▸ List.mem_singleton_self 1
  have hzero : 0 ∉ (s.answer (.compare "n" .gt v)).positions := by rw [hgt]; decide
  have hle : 0 ∈ (s.answer (.compare "n" .le v)).positions :=
    ((h 0).2.1.2 ⟨a, rfl, by decide +kernel⟩).resolve_left hzero
  have hnothing : ¬s.HasAt "n" 2 := by
    rintro ⟨e, he, hfield⟩
    obtain rfl : c = e := Option.some.inj he
    exact absurd hfield (by decide +kernel)
  exact ⟨hquery, hx, hgt, fun hmem => (h 1).1 ⟨hone, hmem⟩, hle, ((h 0).2.2.1 hle).1,
    fun hmem => hnothing ((h 2).2.2.1 hmem).2⟩

end Source

end Logbook
