import Logbook.Proofs.Index.History

/-!
# What an index holds

The postings of an index list, for every key, the positions of the entries that have it
(`Index.ofLevel_build`, `Index.ofEnvironment_build`), a keyword those of the messages that keep it
(`Index.mem_byKeyword_build`), and the range of instants those of the entries with an instant in it
(`Index.mem_inRange_build`).
-/

namespace Logbook

/-! ## Postings -/

namespace Postings

variable {p : Postings} {key k : String} {i j : Nat}

theorem under_empty (k : String) : under ∅ k = #[] :=
  Std.TreeMap.getD_emptyc

theorem under_of_getElem? {positions : Array Nat} (h : p[k]? = some positions) :
    p.under k = positions := by
  rw [under, Std.TreeMap.getD_eq_getD_getElem?, h, Option.getD_some]

theorem under_push (p : Postings) (key k : String) (i : Nat) :
    (p.push key i).under k = if key = k then (p.under k).push i else p.under k := by
  rw [under, push, Std.TreeMap.getD_alter, under, Std.TreeMap.getD_eq_getD_getElem?]
  simp only [Std.compare_eq_iff_eq]
  split
  next h => rw [h, Option.getD_some]
  next => rfl

theorem mem_under_pushNew : i ∈ (p.pushNew key j).under k ↔ i ∈ p.under k ∨ key = k ∧ i = j := by
  rw [under, pushNew, Std.TreeMap.getD_alter, under, Std.TreeMap.getD_eq_getD_getElem?]
  simp only [Std.compare_eq_iff_eq]
  split
  next h =>
    subst h
    rw [Option.getD_some]
    split
    next hlast =>
      -- The position was the last one to be added, so it need not be added again.
      have hj : j ∈ p[key]?.getD #[] := Array.mem_of_back? hlast
      exact ⟨.inl, fun h => h.elim id fun h => h.2 ▸ hj⟩
    next => simp only [Array.mem_push, true_and]
  next h => simp only [h, false_and, or_false]

/-- A position is pushed if it is one of those that are listed. -/
theorem toList_push_append (test : Entry × Nat → Bool) (a : Array Nat) (q : Entry × Nat)
    (log : List (Entry × Nat)) :
    (if test q then a.push q.2 else a).toList ++ (log.filter test).map (·.2) =
      a.toList ++ ((q :: log).filter test).map (·.2) := by
  rw [List.filter_cons]
  by_cases h : test q
  · rw [if_pos h, if_pos h, Array.toList_push, List.map_cons, List.append_assoc,
      List.singleton_append]
  · rw [if_neg h, if_neg h]

theorem under_foldl_push (f : Entry → String) (log : List (Entry × Nat)) (p : Postings) :
    ((log.foldl (fun p q => p.push (f q.1) q.2) p).under k).toList =
      (p.under k).toList ++ (log.filter fun q => f q.1 = k).map (·.2) := by
  induction log generalizing p with
  | nil => exact (List.append_nil _).symm
  | cons q log ih =>
    rw [List.foldl_cons, ih, under_push, ← toList_push_append]
    simp only [decide_eq_true_eq]

theorem mem_under_foldl_pushNew {keys : List String} :
    i ∈ (keys.foldl (fun p key => p.pushNew key j) p).under k ↔
      i ∈ p.under k ∨ k ∈ keys ∧ i = j := by
  induction keys generalizing p with
  | nil => simp
  | cons key keys ih =>
    rw [List.foldl_cons, ih, mem_under_pushNew, List.mem_cons, or_and_right, or_assoc]
    simp only [eq_comm]

/-- Looking through all keys is looking under those that pass the test. -/
theorem mem_flatMap_toList (test : String → Bool) :
    i ∈ p.toList.flatMap (fun q => if test q.1 then q.2.toList else []) ↔
      ∃ key, test key ∧ i ∈ p.under key := by
  rw [List.mem_flatMap]
  constructor
  · rintro ⟨⟨key, positions⟩, hmem, hi⟩
    rw [Std.TreeMap.mem_toList_iff_getElem?_eq_some] at hmem
    simp only [List.mem_ite_nil_right, Array.mem_toList_iff] at hi
    exact ⟨key, hi.1, under_of_getElem? hmem ▸ hi.2⟩
  · rintro ⟨key, htest, hi⟩
    cases hget : p[key]? with
    | none =>
      rw [under, Std.TreeMap.getD_eq_getD_getElem?, hget] at hi
      exact absurd hi (Array.not_mem_empty i)
    | some positions =>
      refine ⟨(key, positions), Std.TreeMap.mem_toList_iff_getElem?_eq_some.2 hget, ?_⟩
      simpa [htest] using under_of_getElem? hget ▸ hi

end Postings

namespace Index

variable {x : Index} {es : List Entry} {e : Entry} {i : Nat} {w : String}

/-! ## Keys -/

/-- The keywords under which an index posts an entry. -/
def keywords (x : Index) (e : Entry) : Keywords :=
  .ofMessage x.keywordLimit x.minKeywordLength e.message

theorem mem_byKeyword_postAll {log : List (Entry × Nat)} :
    i ∈ (x.postAll log).byKeyword.under w ↔
      i ∈ x.byKeyword.under w ∨ ∃ e, (e, i) ∈ log ∧ w ∈ (x.keywords e).kept := by
  induction log generalizing x with
  | nil => simp [postAll]
  | cons q log ih =>
    have hpost : i ∈ (x.post q.1 q.2).byKeyword.under w ↔
        i ∈ x.byKeyword.under w ∨ w ∈ (x.keywords q.1).kept ∧ i = q.2 :=
      Postings.mem_under_foldl_pushNew
    rw [postAll_cons, ih, hpost, or_assoc]
    refine or_congr_right ?_
    constructor
    · rintro (⟨hw, rfl⟩ | ⟨e, he, hw⟩)
      · exact ⟨q.1, List.mem_cons_self, hw⟩
      · exact ⟨e, List.mem_cons_of_mem _ he, hw⟩
    · rintro ⟨e, he, hw⟩
      rcases List.mem_cons.1 he with rfl | he
      · exact .inl ⟨hw, rfl⟩
      · exact .inr ⟨e, he, hw⟩

theorem overflow_postAll (x : Index) (log : List (Entry × Nat)) :
    (x.postAll log).overflow.toList =
      x.overflow.toList ++ (log.filter fun q => (x.keywords q.1).overflows).map (·.2) := by
  induction log generalizing x with
  | nil => exact (List.append_nil _).symm
  | cons q log ih =>
    rw [postAll_cons, ih]
    exact Postings.toList_push_append (fun q => (x.keywords q.1).overflows) x.overflow q log

/-! ## Built indexes -/

theorem mem_placed : (e, i) ∈ placed es 0 ↔ es[i]? = some e :=
  List.mem_zipIdx_iff_getElem?

/-- A posting of a built index lists the positions of the entries with its key, in order. Here
    `postings` is one of the postings of an index, and `f` gives the key of an entry. -/
theorem under_build (postings : Index → Postings) (f : Entry → String)
    (hpost : ∀ x e i, postings (x.post e i) = (postings x).push (f e) i)
    (hclear : postings x.clear = ∅)
    (hbuild : postings (x.build es) = postings (x.clear.postAll (placed es 0))) (k : String) :
    ((postings (x.build es)).under k).toList =
      ((placed es 0).filter fun q => f q.1 = k).map (·.2) := by
  have hfold : ∀ (log : List (Entry × Nat)) (x : Index),
      postings (x.postAll log) = log.foldl (fun p q => p.push (f q.1) q.2) (postings x) := by
    intro log
    induction log with
    | nil => exact fun _ => rfl
    | cons q log ih =>
      intro x
      rw [List.foldl_cons, ← hpost]
      exact ih (x.post q.1 q.2)
  rw [hbuild, hfold, Postings.under_foldl_push, hclear, Postings.under_empty, List.nil_append]

theorem ofLevel_build (x : Index) (es : List Entry) (level : String) :
    (x.build es).ofLevel level =
      ((placed es 0).filter fun q => q.1.level.name = key level).map (·.2) :=
  under_build byLevel (fun e => e.level.name) (fun _ _ _ => rfl) rfl rfl (key level)

theorem ofEnvironment_build (x : Index) (es : List Entry) (environment : String) :
    (x.build es).ofEnvironment environment =
      ((placed es 0).filter fun q => q.1.environment.name = key environment).map (·.2) :=
  under_build byEnvironment (fun e => e.environment.name) (fun _ _ _ => rfl) rfl rfl
    (key environment)

theorem pairwise_placed (es : List Entry) : (placed es 0).Pairwise (·.2 < ·.2) := by
  rw [← List.pairwise_map (f := Prod.snd) (R := (· < ·)), placed, List.zipIdx_map_snd]
  exact List.pairwise_lt_range' 1

theorem pairwise_positions (test : Entry → Bool) (es : List Entry) :
    (((placed es 0).filter fun q => test q.1).map (·.2)).Pairwise (· < ·) :=
  List.pairwise_map.2 ((pairwise_placed es).filter _)

theorem mem_positions (test : Entry → Bool) :
    i ∈ ((placed es 0).filter fun q => test q.1).map (·.2) ↔ ∃ e, es[i]? = some e ∧ test e := by
  rw [List.mem_map]
  constructor
  · rintro ⟨⟨e, j⟩, hmem, rfl⟩
    obtain ⟨hmem, htest⟩ := List.mem_filter.1 hmem
    exact ⟨e, mem_placed.1 hmem, htest⟩
  · rintro ⟨e, he, htest⟩
    exact ⟨(e, i), List.mem_filter.2 ⟨mem_placed.2 he, htest⟩, rfl⟩

theorem minKeywordLength_build (x : Index) (es : List Entry) :
    (x.build es).minKeywordLength = x.minKeywordLength :=
  (postAll_same x.clear (placed es 0)).2.2.2

theorem mem_byKeyword_build :
    i ∈ (x.build es).byKeyword.under w ↔ ∃ e, es[i]? = some e ∧ w ∈ (x.keywords e).kept := by
  show i ∈ (x.clear.postAll (placed es 0)).byKeyword.under w ↔ _
  rw [mem_byKeyword_postAll]
  show i ∈ Postings.under ∅ w ∨ _ ↔ _
  rw [Postings.under_empty]
  simp only [Array.not_mem_empty, false_or, mem_placed]
  rfl

theorem mem_overflow_build :
    i ∈ (x.build es).overflow ↔ ∃ e, es[i]? = some e ∧ (x.keywords e).overflows := by
  show i ∈ (x.clear.postAll (placed es 0)).overflow ↔ _
  rw [← Array.mem_toList_iff, overflow_postAll]
  exact mem_positions fun e => (x.keywords e).overflows

theorem mem_timestamps_build {s : Slot} :
    s ∈ (x.build es).timestamps ↔
      ∃ e, es[s.position]? = some e ∧ e.timestamp? = some s.timestamp := by
  rw [timestamps_build, Slot.mem_sort, slots, List.mem_filterMap]
  constructor
  · rintro ⟨⟨e, i⟩, hmem, hs⟩
    obtain ⟨t, ht, rfl⟩ := Option.map_eq_some_iff.1 hs
    exact ⟨e, mem_placed.1 hmem, ht⟩
  · rintro ⟨e, he, ht⟩
    exact ⟨(e, s.position), mem_placed.2 he, Option.map_eq_some_iff.2 ⟨_, ht, rfl⟩⟩

/-- No two slots are the same, for their positions are not. -/
theorem pairwise_earlier_build (x : Index) (es : List Entry) :
    (x.build es).timestamps.Pairwise Slot.Earlier := by
  have hslots : (slots (placed es 0)).Pairwise (· ≠ ·) := by
    refine List.pairwise_filterMap.2 ((pairwise_placed es).imp fun {p q} hpq a ha b hb hab => ?_)
    obtain ⟨t, -, rfl⟩ := Option.map_eq_some_iff.1 ha
    obtain ⟨u, -, rfl⟩ := Option.map_eq_some_iff.1 hb
    rw [Slot.mk.injEq] at hab
    omega
  have hne : (x.build es).timestamps.Pairwise (· ≠ ·) := by
    rw [timestamps_build]
    exact ((Slot.sort_perm _).pairwise_iff Ne.symm).2 hslots
  exact (pairwise_timestamps_build x es).imp₂ (fun _ _ => Slot.AtMost.earlier) hne

/-- The range holds the entries with an instant in it. -/
theorem mem_inRange_build {first last : Option Int} :
    i ∈ (x.build es).inRange first last ↔ ∃ e t, es[i]? = some e ∧ e.timestamp? = some t ∧
      (∀ a ∈ first, a ≤ t) ∧ ∀ b ∈ last, t ≤ b := by
  rw [inRange_eq_filter (pairwise_timestamps_build x es), List.mem_map]
  simp only [List.mem_filter, mem_timestamps_build, Bool.and_eq_true, Option.all_eq_true,
    decide_eq_true_eq]
  constructor
  · rintro ⟨s, ⟨⟨e, he, ht⟩, hlast, hfirst⟩, rfl⟩
    exact ⟨e, s.timestamp, he, ht, hfirst, hlast⟩
  · rintro ⟨e, t, he, ht, hfirst, hlast⟩
    exact ⟨⟨t, i⟩, ⟨⟨e, he, ht⟩, hlast, hfirst⟩, rfl⟩

end Index

end Logbook
