import Logbook.Proofs.Query.Order

/-!
# Indexes of any history

Nothing keeps an index from being told of entries at any positions, also of the same ones again, or
with gaps between them (`Index.Step`). Such an index may list what the entries of a store do not
say, but it lists no position from its total on: every step raises the total to the end of what it
adds (`Index.Within.perform`). Since an index is only asked if its total is the number of entries,
an answer never leads out of them (`Source.lt_of_mem_answerFresh`).
-/

namespace Logbook

/-- Every position that is listed lies below a bound. -/
def Postings.Below (p : Postings) (n : Nat) : Prop :=
  ∀ k, ∀ i ∈ p.under k, i < n

namespace Postings

variable {p : Postings} {key : String} {i n : Nat}

theorem below_empty (n : Nat) : Below ∅ n := by
  intro k i hi
  rw [under_empty] at hi
  exact absurd hi (Array.not_mem_empty i)

theorem Below.mono {m : Nat} (h : p.Below n) (hm : n ≤ m) : p.Below m :=
  fun k i hi => Nat.lt_of_lt_of_le (h k i hi) hm

theorem Below.push (h : p.Below n) (key : String) (hi : i < n) : (p.push key i).Below n := by
  intro k j hj
  rw [under_push] at hj
  split at hj
  · rcases Array.mem_push.1 hj with hj | rfl
    · exact h k j hj
    · exact hi
  · exact h k j hj

theorem Below.foldl_pushNew (h : p.Below n) (keys : List String) (hi : i < n) :
    (keys.foldl (fun p key => p.pushNew key i) p).Below n := by
  intro k j hj
  rcases mem_under_foldl_pushNew.1 hj with hj | ⟨-, rfl⟩
  · exact h k j hj
  · exact hi

end Postings

namespace Index

variable {x : Index} {i n : Nat}

/-! ## Steps -/

/-- What can be done with an index. -/
inductive Step where
  /-- Build it anew of entries. -/
  | build (es : List Entry)
  /-- Add entries at the positions from `start` on. -/
  | addBatch (es : List Entry) (start : Nat)
  /-- Add an entry at a position. -/
  | add (e : Entry) (position : Nat)

namespace Step

/-- The position after those at which a step adds entries; of a batch without entries, its start. -/
def ending : Step → Nat
  | .build es => es.length
  | .addBatch es start => start + es.length
  | .add _ position => position + 1

/-- Whether a step builds an index anew. -/
def isBuild : Step → Bool
  | .build _ => true
  | _ => false

end Step

/-- The index after a step. -/
def perform (x : Index) : Step → Index
  | .build es => x.build es
  | .addBatch es start => x.addBatch es start
  | .add e position => x.add e position

/-- The index after steps. -/
def after (x : Index) (steps : List Step) : Index :=
  steps.foldl perform x

/-- The steps since an index was last built anew, from this one on, or all if it never was. -/
def sinceBuild (steps : List Step) : List Step :=
  steps.foldl (fun since t => if t.isBuild then [t] else since ++ [t]) []

theorem after_concat (x : Index) (steps : List Step) (t : Step) :
    x.after (steps ++ [t]) = (x.after steps).perform t := by
  rw [after, List.foldl_concat, after]

theorem sinceBuild_concat (steps : List Step) (t : Step) :
    sinceBuild (steps ++ [t]) = if t.isBuild then [t] else sinceBuild steps ++ [t] := by
  rw [sinceBuild, List.foldl_concat, sinceBuild]

/-! ## Bounds -/

/-- Every position that an index holds lies below a bound. -/
structure Within (x : Index) (n : Nat) : Prop where
  level : x.byLevel.Below n
  environment : x.byEnvironment.Below n
  kind : x.byKind.Below n
  keyword : x.byKeyword.Below n
  overflow : ∀ i ∈ x.overflow, i < n
  timestamps : ∀ s ∈ x.timestamps, s.position < n

theorem within_clear (x : Index) (n : Nat) : x.clear.Within n where
  level := Postings.below_empty n
  environment := Postings.below_empty n
  kind := Postings.below_empty n
  keyword := Postings.below_empty n
  overflow i hi := absurd hi (Array.not_mem_empty i)
  timestamps _ hs := absurd hs List.not_mem_nil

theorem Within.mono {m : Nat} (h : x.Within n) (hm : n ≤ m) : x.Within m where
  level := h.level.mono hm
  environment := h.environment.mono hm
  kind := h.kind.mono hm
  keyword := h.keyword.mono hm
  overflow i hi := Nat.lt_of_lt_of_le (h.overflow i hi) hm
  timestamps s hs := Nat.lt_of_lt_of_le (h.timestamps s hs) hm

/-- Slots have nothing to do with the other positions, and the total with none of them. -/
theorem Within.with_timestamps (h : x.Within n) {timestamps : List Slot} {total : Nat}
    (ht : ∀ s ∈ timestamps, s.position < n) : { x with timestamps, total }.Within n where
  __ := h
  timestamps := ht

theorem Within.post (h : x.Within n) (e : Entry) (hi : i < n) : (x.post e i).Within n where
  level := h.level.push _ hi
  environment := h.environment.push _ hi
  kind := h.kind.push _ hi
  keyword := h.keyword.foldl_pushNew _ hi
  overflow j hj := by
    simp only [Index.post] at hj
    split at hj
    · rcases Array.mem_push.1 hj with hj | rfl
      · exact h.overflow j hj
      · exact hi
    · exact h.overflow j hj
  timestamps := h.timestamps

theorem Within.postAll (h : x.Within n) {log : List (Entry × Nat)} (hlog : ∀ p ∈ log, p.2 < n) :
    (x.postAll log).Within n := by
  induction log generalizing x with
  | nil => exact h
  | cons p log ih =>
    obtain ⟨hp, hlog⟩ := List.forall_mem_cons.1 hlog
    exact ih (h.post p.1 hp) hlog

theorem position_of_mem_slot? {e : Entry} {s : Slot} (h : s ∈ slot? e i) : s.position = i := by
  obtain ⟨t, -, rfl⟩ := Option.map_eq_some_iff.1 h
  rfl

theorem Within.add (h : x.Within n) (e : Entry) (position : Nat) :
    (x.add e position).Within (max n (position + 1)) := by
  have hpost : (x.post e position).Within (max n (position + 1)) :=
    (h.mono (Nat.le_max_left ..)).post e (Nat.lt_of_succ_le (Nat.le_max_right ..))
  rw [add_eq]
  refine hpost.with_timestamps fun s hs => ?_
  cases hslot : slot? e position with
  | none =>
    rw [hslot] at hs
    exact hpost.timestamps s hs
  | some new =>
    rw [hslot, Option.elim_some, Slot.insert_eq_orderedInsert, List.mem_orderedInsert] at hs
    rcases hs with rfl | hs
    · rw [position_of_mem_slot? hslot]
      omega
    · exact hpost.timestamps s hs

theorem lt_of_mem_placed {es : List Entry} {start : Nat} {p : Entry × Nat}
    (h : p ∈ placed es start) : p.2 < start + es.length :=
  (List.mem_zipIdx h).2.1

theorem Within.addBatch (h : x.Within n) (es : List Entry) (start : Nat) :
    (x.addBatch es start).Within (max n (start + es.length)) := by
  have hplaced : ∀ p ∈ placed es start, p.2 < max n (start + es.length) := fun p hp =>
    Nat.lt_of_lt_of_le (lt_of_mem_placed hp) (Nat.le_max_right ..)
  have hpost := (h.mono (Nat.le_max_left n (start + es.length))).postAll hplaced
  rw [addBatch_eq]
  refine hpost.with_timestamps fun s hs => ?_
  rw [Slot.mem_sort, List.mem_append] at hs
  rcases hs with hs | hs
  · exact hpost.timestamps s hs
  · obtain ⟨p, hp, hslot⟩ := List.mem_filterMap.1 hs
    rw [position_of_mem_slot? hslot]
    exact hplaced p hp

/-! ## Totals -/

theorem total_add (x : Index) (e : Entry) (position : Nat) :
    (x.add e position).total = max x.total (position + 1) :=
  rfl

theorem total_addBatch (x : Index) (es : List Entry) (start : Nat) :
    (x.addBatch es start).total = max x.total (start + es.length) := by
  rw [addBatch_eq, postAll_total]

/-- The total grows to the end of a step, unless the step begins anew. -/
theorem total_perform (x : Index) (t : Step) :
    (x.perform t).total = if t.isBuild then t.ending else max x.total t.ending := by
  cases t with
  | build es => exact total_build x es
  | addBatch es start => exact total_addBatch x es start
  | add e position => exact total_add x e position

theorem Within.perform (h : x.Within x.total) (t : Step) :
    (x.perform t).Within (x.perform t).total := by
  cases t with
  | build es =>
    rw [Index.perform, total_build]
    simpa [build] using (within_clear x 0).addBatch es 0
  | addBatch es start =>
    rw [Index.perform, total_addBatch]
    exact h.addBatch es start
  | add e position =>
    rw [Index.perform, total_add]
    exact h.add e position

theorem Within.after (h : x.Within x.total) (steps : List Step) :
    (x.after steps).Within (x.after steps).total := by
  induction steps generalizing x with
  | nil => exact h
  | cons t steps ih => exact ih (h.perform t)

/-- The total is the greatest end of the steps since the last build. -/
theorem total_after_empty (settings : Settings) (steps : List Step) :
    ((empty settings).after steps).total =
      ((sinceBuild steps).map Step.ending).foldl max 0 := by
  induction steps using List.reverseRecOn with
  | nil => rfl
  | append_singleton steps t ih =>
    rw [after_concat, total_perform, sinceBuild_concat, ih]
    split
    · exact (Nat.zero_max _).symm
    · rw [List.map_append, List.map_singleton, List.foldl_concat]

end Index

/-! ## Answers -/

namespace Source

variable {s : Source} {x : Index} {i n : Nat} {q : Query}

theorem lt_of_mem_indexed? (hx : x.Within n) {field : String} {op : CompareOp}
    {type : LiteralType} {expected : FieldValue} {positions : List Nat}
    (h : indexed? x field op type expected = some positions) (hi : i ∈ positions) : i < n := by
  unfold indexed? at h
  split at h
  next level =>
    cases h
    exact hx.level _ i (Array.mem_toList_iff.1 hi)
  next environment =>
    cases h
    exact hx.environment _ i (Array.mem_toList_iff.1 hi)
  next environment =>
    cases h
    exact hx.environment _ i (Array.mem_toList_iff.1 hi)
  next d =>
    obtain ⟨-, h⟩ := Option.ite_none_right_eq_some.1 h
    obtain ⟨bounds, -, rfl⟩ := Option.map_eq_some_iff.1 h
    -- A range is a stretch of the slots.
    obtain ⟨slot, hslot, rfl⟩ := List.mem_map.1 hi
    exact hx.timestamps slot
      ((List.dropWhile_sublist _).mem ((List.takeWhile_sublist _).mem hslot))
  next => cases h

theorem lt_of_mem_scan {test : Entry → Bool} (hi : i ∈ s.scan test) : i < s.entries.size := by
  obtain ⟨e, he, -⟩ := mem_scan.1 hi
  exact (Array.getElem?_eq_some_iff.1 he).1

/-- The entries at the positions to which an index narrows a call down are looked at, so that none
    is found where there is no entry. -/
theorem lt_of_mem_call {function : TextFunction} {field : String} {argument : Argument}
    (hi : i ∈ (s.call function field argument).positions) : i < s.entries.size := by
  unfold call at hi
  split at hi
  · obtain ⟨e, he, -⟩ := mem_matching.1 hi
    exact (Array.getElem?_eq_some_iff.1 he).1
  · obtain ⟨e, he, -⟩ := mem_matching.1 hi
    exact (Array.getElem?_eq_some_iff.1 he).1
  · exact absurd hi List.not_mem_nil
  · dsimp only at hi
    split at hi
    next =>
      obtain ⟨e, he, -⟩ := (Option.any_eq_true ..).1 (List.mem_filter.1 hi).2
      exact (Array.getElem?_eq_some_iff.1 he).1
    next => exact lt_of_mem_scan hi

/-- An answer stays within the entries if the index does, whatever else the index lists. -/
theorem lt_of_mem_answerFresh (hs : ∀ x ∈ s.index, x.Within s.entries.size)
    (hi : i ∈ (s.answerFresh q).positions) : i < s.entries.size := by
  induction q using Query.induct with
  | and terms ih =>
    cases terms with
    | nil =>
      rw [answerFresh, answerAll] at hi
      exact List.mem_range.1 hi
    | cons q qs => exact ih q List.mem_cons_self ((sublist_answerFresh_and q qs).mem hi)
  | or terms ih =>
    rw [answerFresh, mem_ascending, mem_answerEach] at hi
    obtain ⟨q, hq, hi⟩ := hi
    exact ih q hq hi
  | not q =>
    rw [answerFresh, mem_others] at hi
    exact hi.1
  | compare field op v =>
    simp only [answerFresh, comparison] at hi
    split at hi
    next positions hpositions =>
      obtain ⟨x, hx, hindexed⟩ := Option.bind_eq_some_iff.1 hpositions
      exact lt_of_mem_indexed? (hs x hx) hindexed hi
    next => exact lt_of_mem_scan hi
  | call function field argument =>
    rw [answerFresh] at hi
    exact lt_of_mem_call hi

theorem lt_of_mem_answer {entries : Array Entry} (hx : x.Within x.total)
    (hi : i ∈ (answer ⟨entries, some x⟩ q).positions) : i < entries.size := by
  -- The index is asked only if its total is the number of entries.
  have hfresh : ∀ y ∈ (some x).filter (fun y => y.total = entries.size), y.Within entries.size := by
    rintro y hy
    obtain ⟨hy, htotal⟩ := Option.filter_eq_some_iff.1 hy
    obtain rfl := Option.some.inj hy
    exact of_decide_eq_true htotal ▸ hx
  exact lt_of_mem_answerFresh (s := fresh ⟨entries, some x⟩) hfresh hi

end Source

namespace Index

/-- Whatever was done with an index that was empty at first, and at whatever positions: all that it
    holds lies below its total, and this is the greatest end of what was done since it was last
    built anew. So no answer leads out of the entries, even if the index is one of others. -/
theorem after_empty_within (settings : Settings) (steps : List Step) :
    let x := (empty settings).after steps
    x.Within x.total ∧
    x.total = ((sinceBuild steps).map Step.ending).foldl max 0 ∧
    ∀ (entries : Array Entry) (q : Query),
      ∀ i ∈ (Source.answer ⟨entries, some x⟩ q).positions, i < entries.size := by
  intro x
  have hx : x.Within x.total := (within_clear (empty settings) 0).after steps
  exact ⟨hx, total_after_empty settings steps, fun _ _ _ hi => Source.lt_of_mem_answer hx hi⟩

/-- Positions with gaps between them, out of order and given twice, in an index of three entries
    that is asked for nine others. -/
theorem after_empty_within_gaps :
    let a : Entry := .text "up"
    let b : Entry := .text "[WARN] disk full"
    let steps : List Step := [.add b 40, .build [a, a], .add b 7, .addBatch [] 9, .addBatch [b] 7]
    let x := (empty {}).after steps
    let s : Source := ⟨Array.replicate 9 a, some x⟩
    let q : Query := .compare "level" .eq (.string "warn")
    7 ∈ x.byLevel.under "warn" ∧ 7 < x.total ∧
      (sinceBuild steps).map Step.ending = [2, 8, 9, 8] ∧ x.total = 9 ∧
      7 ∈ (s.answer q).positions ∧ 7 < s.entries.size := by
  intro a b steps x s q
  obtain ⟨hwithin, htotal, hanswers⟩ := after_empty_within {} steps
  have hlevel : 7 ∈ x.byLevel.under "warn" := by decide +kernel
  have hanswer : 7 ∈ (s.answer q).positions := by decide +kernel
  exact ⟨hlevel, hwithin.level "warn" 7 hlevel, rfl, htotal, hanswer,
    hanswers (Array.replicate 9 a) q 7 hanswer⟩

end Index

end Logbook
