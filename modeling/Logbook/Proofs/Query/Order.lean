import Logbook.Proofs.Index.Answers

/-!
# The order of answers

A conjunction cuts down the answer to its first term and keeps its order, so the order of an answer
is that of the first condition (`Query.lead`). An index gives the instants in their order to a
comparison with a date; to everything else the positions ascend
(`Source.UpToDate.pairwise_earlier`, `Source.UpToDate.pairwise_lt`). Since in neither order a
position comes twice, an answer is told by the positions at which the query holds.
-/

namespace Logbook

namespace Query

/-- The query whose answer gives the order: that of the first term, if all terms must hold. -/
def lead : Query → Query
  | .and (q :: _) => q.lead
  | q => q

/-- Whether the order is that of the instants, if there is an index: the lead compares them with a
    date, and not for inequality. -/
def LeadsByInstant (q : Query) : Prop :=
  ∃ op v, q.lead = .compare "timestamp" op v ∧ op ≠ .ne ∧ v.type = .string ∧
    ∃ t, Instant.ofText? v.value = some t

variable {q : Query} {terms : List Query}

theorem leadsByInstant_and_cons : (Query.and (q :: terms)).LeadsByInstant ↔ q.LeadsByInstant := by
  rw [LeadsByInstant, lead]
  rfl

theorem leadsByInstant_compare {field : String} {op : CompareOp} {v : Literal} :
    (Query.compare field op v).LeadsByInstant ↔ field = "timestamp" ∧ op ≠ .ne ∧
      v.type = .string ∧ ∃ t, Instant.ofText? v.value = some t := by
  simp only [LeadsByInstant, lead, Query.compare.injEq]
  constructor
  · rintro ⟨op, v, ⟨rfl, rfl, rfl⟩, h⟩
    exact ⟨rfl, h⟩
  · rintro ⟨rfl, h⟩
    exact ⟨op, v, ⟨rfl, rfl, rfl⟩, h⟩

end Query

namespace Source

variable {s : Source} {x : Index} {es : List Entry} {i j : Nat} {q : Query} {qs : List Query}

/-! ## Conjunctions -/

theorem sublist_answerAll (before : List Nat) (qs : List Query) :
    (s.answerAll (some before) qs).positions.Sublist before := by
  induction qs generalizing before with
  | nil =>
    rw [answerAll]
    exact List.Sublist.refl before
  | cons q qs ih =>
    rw [answerAll_cons]
    split
    · exact List.nil_sublist before
    · exact (ih _).trans List.filter_sublist

/-- A conjunction only cuts down the answer to its first term. -/
theorem sublist_answerFresh_and (q : Query) (qs : List Query) :
    (s.answerFresh (.and (q :: qs))).positions.Sublist (s.answerFresh q).positions := by
  rw [answerFresh, answerAll_cons]
  split
  · exact List.nil_sublist _
  · exact sublist_answerAll _ qs

/-! ## Instants -/

/-- The instant of the entry at a position. -/
def instant? (s : Source) (i : Nat) : Option Int :=
  s.entries[i]?.bind (·.timestamp?)

/-- Whether the entry at a position comes before another one by instant and then by position. -/
def Earlier (s : Source) (i j : Nat) : Prop :=
  ∃ t u, s.instant? i = some t ∧ s.instant? j = some u ∧ Slot.Earlier ⟨t, i⟩ ⟨u, j⟩

instance : Std.Irrefl s.Earlier where
  irrefl i := by
    rintro ⟨t, u, ht, hu, h⟩
    obtain rfl := Option.some.inj (ht.symm.trans hu)
    simp only [Slot.Earlier] at h
    omega

instance : Std.Antisymm s.Earlier where
  antisymm i j := by
    rintro ⟨t, u, ht, hu, h⟩ ⟨u', t', hu', ht', h'⟩
    obtain rfl := Option.some.inj (ht.symm.trans ht')
    obtain rfl := Option.some.inj (hu.symm.trans hu')
    simp only [Slot.Earlier] at h h'
    omega

theorem pairwise_inRange (hs : s.entries.toList = es) (x : Index) (first last : Option Int) :
    ((x.build es).inRange first last).Pairwise s.Earlier := by
  rw [Index.inRange_eq_filter (Index.pairwise_timestamps_build x es), List.pairwise_map]
  refine ((Index.pairwise_earlier_build x es).filter _).imp_of_mem fun {a b} ha hb hab => ?_
  have hinstant : ∀ slot ∈ (x.build es).timestamps,
      s.instant? slot.position = some slot.timestamp := fun slot hslot => by
    obtain ⟨e, he, ht⟩ := Index.mem_timestamps_build.1 hslot
    rw [instant?, ← Array.getElem?_toList, hs, he, Option.bind_some, ht]
  exact ⟨a.timestamp, b.timestamp, hinstant a (List.mem_of_mem_filter ha),
    hinstant b (List.mem_of_mem_filter hb), hab⟩

theorem indexed?_timestamp (x : Index) {op : CompareOp} (hop : op ≠ .ne) {v : Literal}
    (hv : v.type = .string) {t : Int} (ht : Instant.ofText? v.value = some t) :
    ∃ first last, indexed? x "timestamp" op v.type (v.coerce "timestamp") =
      some (x.inRange first last) := by
  have hcoerce : v.coerce "timestamp" = .number (.ofInt t) := by
    simp only [Literal.coerce, hv, ht]
  obtain ⟨first, last, hbounds⟩ := exists_bounds? hop (Double.ofInt t).toInt64
  exact ⟨first, last, by simp [hcoerce, indexed?, hv, hbounds]⟩

/-! ## Ascending answers -/

/-- What is not answered by a range of instants is answered by a posting. -/
theorem pairwise_indexed? (x : Index) {field : String} {op : CompareOp} {v : Literal}
    {positions : List Nat} (hlead : ¬(Query.compare field op v).LeadsByInstant)
    (h : indexed? (x.build es) field op v.type (v.coerce field) = some positions) :
    positions.Pairwise (· < ·) := by
  generalize hexp : v.coerce field = expected at h
  unfold indexed? at h
  split at h
  next level =>
    rw [← Option.some.inj h, Index.ofLevel_build]
    exact Index.pairwise_positions (fun e => e.level.name = Index.key level) es
  next environment =>
    rw [← Option.some.inj h, Index.ofEnvironment_build]
    exact Index.pairwise_positions (fun e => e.environment.name = Index.key environment) es
  next environment =>
    rw [← Option.some.inj h, Index.ofEnvironment_build]
    exact Index.pairwise_positions (fun e => e.environment.name = Index.key environment) es
  next d =>
    obtain ⟨hv, h⟩ := Option.ite_none_right_eq_some.1 h
    obtain ⟨⟨first, last⟩, hbounds, -⟩ := Option.map_eq_some_iff.1 h
    obtain ⟨t, ht, -⟩ := coerce_timestamp hv hexp
    refine absurd (Query.leadsByInstant_compare.2 ⟨rfl, ?_, hv, t, ht⟩) hlead
    rintro rfl
    cases hbounds
  next => cases h

theorem pairwise_matching (s : Source) (field source flags : String) :
    (s.matching field source flags).positions.Pairwise (· < ·) := by
  unfold matching
  split
  · exact pairwise_scan _
  · exact .nil

theorem pairwise_narrowed? {function : TextFunction} {field : String} {needle : List Char}
    {positions : List Nat} (h : s.narrowed? function field needle = some positions) :
    positions.Pairwise (· < ·) := by
  obtain ⟨-, h⟩ := Option.ite_none_right_eq_some.1 h
  obtain ⟨x, -, hx⟩ := Option.bind_eq_some_iff.1 h
  simp only [Index.candidates?, Option.ite_none_left_eq_some, Option.some.injEq] at hx
  rw [← hx.2]
  exact pairwise_ascending

theorem pairwise_call (s : Source) (function : TextFunction) (field : String)
    (argument : Argument) : (s.call function field argument).positions.Pairwise (· < ·) := by
  unfold call
  split
  · exact pairwise_matching s _ _ _
  · exact pairwise_matching s _ _ _
  · exact .nil
  · dsimp only
    split
    next h => exact (pairwise_narrowed? h).filter _
    next => exact pairwise_scan _

theorem UpToDate.pairwise_lt_answerFresh (hs : s.UpToDate)
    (h : ¬(q.LeadsByInstant ∧ s.index.isSome)) :
    (s.answerFresh q).positions.Pairwise (· < ·) := by
  induction q using Query.induct with
  | and terms ih =>
    cases terms with
    | nil =>
      rw [answerFresh, answerAll]
      exact List.pairwise_lt_range
    | cons q qs =>
      rw [Query.leadsByInstant_and_cons] at h
      exact (ih q List.mem_cons_self h).sublist (sublist_answerFresh_and q qs)
  | or terms ih =>
    rw [answerFresh]
    exact pairwise_ascending
  | not q ih =>
    rw [answerFresh]
    exact List.pairwise_lt_range.filter _
  | compare field op v =>
    simp only [answerFresh, comparison]
    split
    next positions hpositions =>
      -- The index that was asked has been built of the entries, so that its postings ascend.
      obtain ⟨x, hx, hindexed⟩ := Option.bind_eq_some_iff.1 hpositions
      rw [← (hs x hx).build_eq] at hindexed
      exact pairwise_indexed? x (fun hlead => h ⟨hlead, Option.isSome_of_eq_some hx⟩) hindexed
    next => exact pairwise_scan _
  | call function field argument =>
    rw [answerFresh]
    exact pairwise_call s function field argument

theorem UpToDate.pairwise_earlier_answerFresh (hs : s.UpToDate) (h : q.LeadsByInstant)
    (hx : s.index = some x) : (s.answerFresh q).positions.Pairwise s.Earlier := by
  induction q using Query.induct with
  | and terms ih =>
    cases terms with
    | nil =>
      obtain ⟨op, v, hlead, -⟩ := h
      simp [Query.lead] at hlead
    | cons q qs =>
      rw [Query.leadsByInstant_and_cons] at h
      exact (ih q List.mem_cons_self h).sublist (sublist_answerFresh_and q qs)
  | compare field op v =>
    obtain ⟨rfl, hop, hv, t, ht⟩ := Query.leadsByInstant_compare.1 h
    obtain ⟨first, last, hindexed⟩ := indexed?_timestamp x hop hv ht
    rw [answerFresh, comparison, hx, Option.bind_some, hindexed, ← (hs x hx).build_eq]
    exact pairwise_inRange rfl x first last
  | or terms | not q | call function field argument =>
    obtain ⟨op, v, hlead, -⟩ := h
    simp [Query.lead] at hlead

/-! ## Orders -/

theorem UpToDate.pairwise_lt (hs : s.UpToDate) (h : ¬(q.LeadsByInstant ∧ s.index.isSome)) :
    (s.answer q).positions.Pairwise (· < ·) := by
  rw [answer, hs.fresh_eq]
  exact hs.pairwise_lt_answerFresh h

theorem UpToDate.pairwise_earlier (hs : s.UpToDate) (h : q.LeadsByInstant)
    (hx : s.index = some x) : (s.answer q).positions.Pairwise s.Earlier := by
  rw [answer, hs.fresh_eq]
  exact hs.pairwise_earlier_answerFresh h hx

/-- No position comes twice in an answer, and none lies outside of the entries. The positions stand
    in the order of the instants, if there is an index and the lead compares the instants with a
    date, and ascend otherwise. -/
theorem answer_nodup_ordered (entries : Array Entry) (index : Option Index)
    (h : ∀ x ∈ index, x.Follows entries.toList) (q : Query) :
    let s : Source := ⟨entries, index⟩
    (s.answer q).positions.Nodup ∧ (∀ i ∈ (s.answer q).positions, i < entries.size) ∧
      (q.LeadsByInstant ∧ index.isSome → (s.answer q).positions.Pairwise s.Earlier) ∧
      (¬(q.LeadsByInstant ∧ index.isSome) → (s.answer q).positions.Pairwise (· < ·)) := by
  intro s
  have hs : s.UpToDate := h
  have hinstants : q.LeadsByInstant ∧ index.isSome → (s.answer q).positions.Pairwise s.Earlier := by
    rintro ⟨hlead, hindex⟩
    obtain ⟨x, hx⟩ := Option.isSome_iff_exists.1 hindex
    exact hs.pairwise_earlier hlead hx
  refine ⟨?_, fun i hi => ((hs.mem_answer q).1 hi).lt, hinstants, hs.pairwise_lt⟩
  by_cases hlead : q.LeadsByInstant ∧ index.isSome
  · exact (hinstants hlead).nodup
  · exact (hs.pairwise_lt hlead).nodup

/-- The last of three entries comes before the first one by its instant; in a disjunction it does
    not, even if it has one term only. -/
theorem answer_nodup_ordered_instants :
    let a : Entry := .text "2024-05-02 up"
    let b : Entry := .text "2024-03-31 up"
    let c : Entry := .text "2024-05-01 down"
    let x := (((Index.empty {}).build [a]).add b 1).add c 2
    let s : Source := ⟨#[a, b, c], some x⟩
    let q : Query := .and [.compare "timestamp" .gt (.string "2024-04-01")]
    x.Follows [a, b, c] ∧ q.LeadsByInstant ∧ s.answer q = ⟨[2, 0], true⟩ ∧ 2 < s.entries.size ∧
      [2, 0].Pairwise s.Earlier ∧ ¬(Query.or [q]).LeadsByInstant ∧
      (s.answer (.or [q])).positions.Pairwise (· < ·) := by
  intro a b c x s q
  have hx : ∀ y ∈ some x, y.Follows [a, b, c] := by
    rintro y ⟨⟩
    exact .add (.add (.build (.empty {}) [a]) b) c
  have hlead : q.LeadsByInstant := by
    rw [Query.leadsByInstant_and_cons, Query.leadsByInstant_compare]
    exact ⟨rfl, nofun, rfl, Option.isSome_iff_exists.1 (by decide +kernel)⟩
  have hor : ¬(Query.or [q]).LeadsByInstant := by
    rintro ⟨op, v, hcompare, -⟩
    simp [Query.lead] at hcompare
  have hanswer : s.answer q = ⟨[2, 0], true⟩ := by decide +kernel
  obtain ⟨-, hrange, hinstants, -⟩ := answer_nodup_ordered #[a, b, c] (some x) hx q
  rw [hanswer] at hrange hinstants
  exact ⟨hx x rfl, hlead, hanswer, hrange 2 List.mem_cons_self, hinstants ⟨hlead, rfl⟩, hor,
    (answer_nodup_ordered #[a, b, c] (some x) hx (.or [q])).2.2.2 fun h => hor h.1⟩

/-! ## More entries -/

/-- Entries that are added at the end change nothing in the answer about those before them. -/
theorem UpToDate.filter_positions_answer {s' : Source} (hs : s.UpToDate) (hs' : s'.UpToDate)
    (hindex : s'.index.isSome = s.index.isSome)
    (hkept : ∀ i < s.entries.size, s'.entries[i]? = s.entries[i]?) (q : Query) :
    (s'.answer q).positions.filter (· < s.entries.size) = (s.answer q).positions := by
  have hmem : ∀ i, i ∈ (s'.answer q).positions.filter (· < s.entries.size) ↔
      i ∈ (s.answer q).positions := fun i => by
    rw [List.mem_filter, hs'.mem_answer, hs.mem_answer, decide_eq_true_eq]
    constructor
    · rintro ⟨⟨e, he, hq⟩, hi⟩
      exact ⟨e, hkept i hi ▸ he, hq⟩
    · intro h
      have hi := h.lt
      obtain ⟨e, he, hq⟩ := h
      exact ⟨⟨e, (hkept i hi).trans he, hq⟩, hi⟩
  -- Both lists are told by their members and their order, which is the same for both sources.
  by_cases hlead : q.LeadsByInstant ∧ s.index.isSome
  · obtain ⟨x, hx⟩ := Option.isSome_iff_exists.1 hlead.2
    obtain ⟨x', hx'⟩ := Option.isSome_iff_exists.1 (hindex.trans hlead.2)
    have hpairwise : ((s'.answer q).positions.filter (· < s.entries.size)).Pairwise s.Earlier := by
      refine ((hs'.pairwise_earlier hlead.1 hx').filter _).imp_of_mem fun {i j} hi hj h => ?_
      obtain ⟨t, u, ht, hu, h⟩ := h
      rw [instant?, hkept i (of_decide_eq_true (List.mem_filter.1 hi).2)] at ht
      rw [instant?, hkept j (of_decide_eq_true (List.mem_filter.1 hj).2)] at hu
      exact ⟨t, u, ht, hu, h⟩
    exact hpairwise.eq_of_mem_iff (hs.pairwise_earlier hlead.1 hx) hmem
  · have hlead' : ¬(q.LeadsByInstant ∧ s'.index.isSome) := by rwa [hindex]
    exact ((hs'.pairwise_lt hlead').filter _).eq_of_mem_iff (hs.pairwise_lt hlead) hmem

end Source

end Logbook
