import Logbook.Proofs.Index.Candidates
import Logbook.Proofs.Time.Span

/-!
# Answers from an index

An index may be asked in place of the entries. For each of the conditions that it answers there is
a reason why nothing is lost and nothing is found that a scan would not find:

* a level or an environment is posted under its name, and a name is in small letters already;
* an instant compares with a date as in double precision, since dates are exact there
  (`Source.compares_ofInt_iff`);
* a message in which a text stands is among the candidates for the text (`Index.mem_candidates`).

So a source is sound with an index that follows its entries (`Source.sound_of_follows`).
-/

namespace Logbook

open Text

/-! ## Names -/

theorem Level.lower_name (l : Level) : lower l.name.toList = l.name.toList := by
  cases l <;> decide

theorem Environment.lower_name (v : Environment) : lower v.name.toList = v.name.toList := by
  cases v <;> decide

theorem Entry.field?_of_commonField? {e : Entry} {name : String} {value : Option FieldValue}
    (hname : String.ofList (trim name.toList) = name) (h : e.commonField? name = some value) :
    e.field? name = value := by
  rw [field?, hname, h]

/-- Names are posted as they are, and looked up in small letters. -/
theorem Index.mem_named {es : List Entry} {f : Entry → String}
    (hf : ∀ e, lower (f e).toList = (f e).toList) {s : String} {i : Nat} :
    i ∈ ((placed es 0).filter fun q => f q.1 = key s).map (·.2) ↔
      ∃ e, es[i]? = some e ∧ lower (f e).toList = lower s.toList := by
  rw [mem_positions fun e => decide (f e = key s)]
  simp only [decide_eq_true_eq, hf, key, ← String.toList_inj, String.toList_ofList]

/-! ## Soundness -/

namespace Source

variable {entries : Array Entry} {x : Index} {i : Nat}

/-- Any comparison but inequality has bounds. -/
theorem exists_bounds? {op : CompareOp} (hop : op ≠ .ne) (t : Int) :
    ∃ first last, bounds? op t = some (first, last) := by
  cases op <;> first | exact absurd rfl hop | exact ⟨_, _, rfl⟩

/-- Bounds of instants are those of the ones that compare so, where they are not cut off. -/
theorem holds_compare_iff {op : CompareOp} {t : Int} (ht : t.natAbs < exactBound)
    {first last : Option Int} (h : bounds? op t = some (first, last)) (u : Int) :
    op.holds (compare u t) ↔ (∀ a ∈ first, a ≤ u) ∧ ∀ b ∈ last, u ≤ b := by
  have hnext : clamp64 (t + 1) = t + 1 := clamp64_of_natAbs_le (by omega)
  have hprevious : clamp64 (t - 1) = t - 1 := clamp64_of_natAbs_le (by omega)
  cases op <;> simp only [bounds?, hnext, hprevious, Option.some.injEq, Prod.mk.injEq,
    reduceCtorEq] at h
  all_goals
    obtain ⟨rfl, rfl⟩ := h
    simp only [CompareOp.holds, decide_eq_true_eq, Option.mem_def, Option.some.injEq, forall_eq',
      reduceCtorEq, false_implies, implies_true, true_and, and_true]
  case eq => rw [compare_eq_iff_eq]; omega
  case gt => rw [compare_gt_iff_gt]; omega
  case lt => rw [compare_lt_iff_lt]; omega
  case ge => rw [compare_ge_iff_ge]
  case le => rw [compare_le_iff_le]

theorem compares_ofInt_iff (op : CompareOp) (u : Int) {t : Int} (ht : t.natAbs < exactBound) :
    (FieldValue.number (.ofInt u)).compares op (.number (.ofInt t)) ↔ op.holds (compare u t) := by
  simp only [FieldValue.compares, Double.compare?_ofInt u ht, Option.any_some]

theorem compares_text_eq_iff {s t : String} :
    (FieldValue.text s).compares .eq (.text t) ↔ lower s.toList = lower t.toList := by
  simp only [FieldValue.compares, FieldValue.shown]
  exact decide_eq_true_iff

/-- A literal that is compared with instants as a number is a date. -/
theorem coerce_timestamp {v : Literal} {d : Double} (hv : v.type = .string)
    (h : v.coerce "timestamp" = .number d) :
    ∃ t, Instant.ofText? v.value = some t ∧ d = .ofInt t := by
  simp only [Literal.coerce, hv] at h
  split at h
  next t _ ht =>
    rw [FieldValue.number.injEq] at h
    exact ⟨t, ht, h.symm⟩
  next => cases h

theorem holds_name_iff {field name expected : String} {e : Entry} {v : Literal}
    (hfield : e.field? field = some (.text name)) (hv : v.coerce field = .text expected) :
    (Query.compare field .eq v).Holds e ↔ lower name.toList = lower expected.toList := by
  rw [Query.holds_compare_of_field? hfield, hv, compares_text_eq_iff]

theorem holds_timestamp_iff {v : Literal} {t : Int}
    (hv : v.coerce "timestamp" = .number (.ofInt t)) (ht : t.natAbs < exactBound) {op : CompareOp}
    {e : Entry} : (Query.compare "timestamp" op v).Holds e ↔
      ∃ u, e.timestamp? = some u ∧ op.holds (compare u t) := by
  have hfield : e.field? "timestamp" = e.timestamp?.map fun u => .number (.ofInt u) :=
    Entry.field?_of_commonField? (by decide) rfl
  simp only [Query.Holds, hfield, hv, Option.map_eq_some_iff]
  constructor
  · rintro ⟨_, ⟨u, hu, rfl⟩, h⟩
    exact ⟨u, hu, (compares_ofInt_iff op u ht).1 h⟩
  · rintro ⟨u, hu, h⟩
    exact ⟨_, ⟨u, hu, rfl⟩, (compares_ofInt_iff op u ht).2 h⟩

/-- What an index answers to a comparison are the positions at which it holds. -/
theorem mem_indexed (x : Index) {es : List Entry} {field : String} {op : CompareOp} {v : Literal}
    {positions : List Nat}
    (h : indexed? (x.build es) field op v.type (v.coerce field) = some positions) :
    i ∈ positions ↔ ∃ e, es[i]? = some e ∧ (Query.compare field op v).Holds e := by
  generalize hexp : v.coerce field = expected at h
  unfold indexed? at h
  split at h
  next level =>
    rw [← Option.some.inj h, Index.ofLevel_build, Index.mem_named fun e => e.level.lower_name]
    exact exists_congr fun e => and_congr_right fun _ =>
      (holds_name_iff (Entry.field?_of_commonField? (by decide) rfl) hexp).symm
  next environment =>
    rw [← Option.some.inj h, Index.ofEnvironment_build,
      Index.mem_named fun e => e.environment.lower_name]
    exact exists_congr fun e => and_congr_right fun _ =>
      (holds_name_iff (Entry.field?_of_commonField? (by decide) rfl) hexp).symm
  next environment =>
    rw [← Option.some.inj h, Index.ofEnvironment_build,
      Index.mem_named fun e => e.environment.lower_name]
    exact exists_congr fun e => and_congr_right fun _ =>
      (holds_name_iff (Entry.field?_of_commonField? (by decide) rfl) hexp).symm
  next d =>
    obtain ⟨hv, h⟩ := Option.ite_none_right_eq_some.1 h
    obtain ⟨t, ht, hd⟩ := coerce_timestamp hv hexp
    -- The date is exact in double precision, so its bounds are those that the comparison means.
    have hbound := Instant.natAbs_lt_of_ofText? ht
    rw [hd] at hexp
    rw [hd, Double.toInt64_ofInt (Nat.le_of_lt hbound), Option.map_eq_some_iff] at h
    obtain ⟨⟨first, last⟩, hbounds, rfl⟩ := h
    simp only [Index.mem_inRange_build, holds_timestamp_iff hexp hbound,
      holds_compare_iff hbound hbounds, exists_and_left]
  next => cases h

/-- An index that follows the entries may be asked in their place. -/
theorem sound_of_follows (h : x.Follows entries.toList) : Sound ⟨entries, some x⟩ where
  comparison field op v i := by
    rw [← h.build_eq, comparison]
    split
    next positions hpos =>
      rw [mem_indexed x hpos]
      simp only [HoldsAt, Array.getElem?_toList]
    next => simp only [mem_scan, comparisonHolds_iff, HoldsAt]
  narrowed text positions hn i := by
    rintro ⟨e, he, value, hvalue, hin⟩
    rw [Entry.field?_of_commonField? (by decide) rfl, Option.some.injEq] at hvalue
    subst hvalue
    rw [← h.build_eq] at hn
    refine Index.mem_candidates x hn (by simpa using he) ?_
    rw [lower_lower]
    exact hin

/-- The index, if there is one, follows the entries. -/
def UpToDate (s : Source) : Prop :=
  ∀ x ∈ s.index, x.Follows s.entries.toList

variable {s : Source}

theorem UpToDate.sound (hs : s.UpToDate) : s.Sound := by
  obtain ⟨entries, index⟩ := s
  cases index with
  | none => exact sound_of_index_eq_none rfl
  | some x => exact sound_of_follows (hs x rfl)

/-- An index that follows the entries counts as many as there are. -/
theorem UpToDate.fresh_eq (hs : s.UpToDate) : s.fresh = s := by
  obtain ⟨entries, index⟩ := s
  cases index with
  | none => rfl
  | some x =>
    have htotal : x.total = entries.size := by
      rw [← (hs x rfl).build_eq, Index.total_build, Array.length_toList]
    simp [fresh, htotal]

theorem UpToDate.mem_answer (hs : s.UpToDate) (q : Query) :
    i ∈ (s.answer q).positions ↔ s.HoldsAt q i := by
  rw [answer, hs.fresh_eq]
  exact hs.sound.mem_answerFresh q

/-- An index that follows the entries makes no difference to what is found, and one that counts
    another number of entries is not asked. -/
theorem answer_with_index (entries : Array Entry) (x : Index) (q : Query) :
    (x.Follows entries.toList → ∀ i,
      i ∈ (answer ⟨entries, some x⟩ q).positions ↔ i ∈ (answer ⟨entries, none⟩ q).positions) ∧
    (x.total ≠ entries.size →
      (answer ⟨entries, some x⟩ q).positions = (answer ⟨entries, none⟩ q).positions ∧
        (answer ⟨entries, some x⟩ q).usedIndex = false) := by
  refine ⟨fun hx i => ?_, fun hx => ?_⟩
  · have hwith : UpToDate ⟨entries, some x⟩ := fun y hy => Option.mem_some.1 hy ▸ hx
    have hwithout : UpToDate ⟨entries, none⟩ := nofun
    rw [hwith.mem_answer, hwithout.mem_answer]
    rfl
  · have hfresh : fresh ⟨entries, some x⟩ = ⟨entries, none⟩ := by
      simp [fresh, hx]
    rw [answer, answer, hfresh]
    exact ⟨rfl, (scanned_answerFresh rfl q).usedIndex⟩

/-- The part of a word is found by way of the index. -/
theorem answer_with_index_two_entries :
    let a : Entry := .text "disk full"
    let b : Entry := .text "[WARN] disk failing again"
    let x := ((Index.empty {}).build [a]).add b 1
    let q : Query := .call .contains "message" (.text "AIL")
    x.Follows [a, b] ∧ answer ⟨#[a, b], some x⟩ q = ⟨[1], true⟩ ∧
      1 ∈ (answer ⟨#[a, b], none⟩ q).positions ∧
      (Index.empty {}).total ≠ 2 ∧ (answer ⟨#[a, b], some (.empty {})⟩ q).usedIndex = false := by
  intro a b x q
  have hx : x.Follows [a, b] := .add (.build (.empty {}) [a]) b
  have hanswer : answer ⟨#[a, b], some x⟩ q = ⟨[1], true⟩ := by decide +kernel
  have hmem : 1 ∈ (answer ⟨#[a, b], some x⟩ q).positions := hanswer ▸ List.mem_singleton_self 1
  have htotal : (Index.empty {}).total ≠ 2 := by decide
  exact ⟨hx, hanswer, ((answer_with_index #[a, b] x q).1 hx 1).1 hmem, htotal,
    ((answer_with_index #[a, b] (.empty {}) q).2 htotal).2⟩

end Source

end Logbook
