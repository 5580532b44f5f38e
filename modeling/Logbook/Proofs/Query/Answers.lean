import Logbook.Proofs.Query.Meaning
import Logbook.Proofs.Text.Finding
import Logbook.Query.Eval

/-!
# Answers

Queries are answered by lists of positions that are cut down and put together, and each list can be
told from what the query means.

* `Source.Sound`: what has to be known of how the conditions are answered;
* `Source.Sound.mem_answerFresh`: then every query is answered by the positions at which it holds;
* `Source.sound_of_index_eq_none`: a source without an index is sound;
* `Source.scanned_answerFresh`: the positions that such a source answers with ascend.
-/

namespace Logbook

namespace Source

variable {s : Source} {a b : List Nat} {i : Nat} {qs : List Query}

/-- Whether a query holds of the entry at a position. -/
def HoldsAt (s : Source) (q : Query) (i : Nat) : Prop :=
  ∃ e, s.entries[i]? = some e ∧ q.Holds e

theorem holdsAt_iff {q : Query} :
    s.HoldsAt q i ↔ ∃ h : i < s.entries.size, q.Holds s.entries[i] := by
  constructor
  · rintro ⟨e, he, hq⟩
    obtain ⟨hi, rfl⟩ := Array.getElem?_eq_some_iff.1 he
    exact ⟨hi, hq⟩
  · rintro ⟨hi, hq⟩
    exact ⟨s.entries[i], Array.getElem?_eq_getElem hi, hq⟩

theorem HoldsAt.lt {q : Query} (h : s.HoldsAt q i) : i < s.entries.size :=
  (holdsAt_iff.1 h).1

theorem holdsAt_and {terms : List Query} :
    s.HoldsAt (.and terms) i ↔ i < s.entries.size ∧ ∀ q ∈ terms, s.HoldsAt q i := by
  simp only [holdsAt_iff, Query.holds_and]
  constructor
  · rintro ⟨hi, h⟩
    exact ⟨hi, fun q hq => ⟨hi, h q hq⟩⟩
  · rintro ⟨hi, h⟩
    exact ⟨hi, fun q hq => (h q hq).2⟩

theorem holdsAt_or {terms : List Query} : s.HoldsAt (.or terms) i ↔ ∃ q ∈ terms, s.HoldsAt q i := by
  simp only [holdsAt_iff, Query.holds_or]
  constructor
  · rintro ⟨hi, q, hq, h⟩
    exact ⟨q, hq, hi, h⟩
  · rintro ⟨q, hq, hi, h⟩
    exact ⟨hi, q, hq, h⟩

theorem holdsAt_not {q : Query} : s.HoldsAt q.not i ↔ i < s.entries.size ∧ ¬s.HoldsAt q i := by
  simp only [holdsAt_iff, Query.holds_not]
  constructor
  · rintro ⟨hi, h⟩
    exact ⟨hi, fun hq => h hq.2⟩
  · rintro ⟨hi, h⟩
    exact ⟨hi, fun hq => h ⟨hi, hq⟩⟩

theorem holdsAt_conj {p q : Query} : s.HoldsAt (p.conj q) i ↔ s.HoldsAt p i ∧ s.HoldsAt q i := by
  simp only [holdsAt_iff, Query.holds_conj]
  constructor
  · rintro ⟨hi, hp, hq⟩
    exact ⟨⟨hi, hp⟩, hi, hq⟩
  · rintro ⟨⟨hi, hp⟩, _, hq⟩
    exact ⟨hi, hp, hq⟩

theorem holdsAt_disj {p q : Query} : s.HoldsAt (p.disj q) i ↔ s.HoldsAt p i ∨ s.HoldsAt q i := by
  simp only [holdsAt_iff, Query.holds_disj, exists_or]

/-! ## Putting answers together -/

theorem mem_scan {test : Entry → Bool} :
    i ∈ s.scan test ↔ ∃ e, s.entries[i]? = some e ∧ test e := by
  rw [scan, List.mem_filter, List.mem_range, Option.any_eq_true]
  refine and_iff_right_of_imp ?_
  rintro ⟨e, he, -⟩
  exact (Array.getElem?_eq_some_iff.1 he).1

theorem mem_meet : i ∈ meet a b ↔ i ∈ a ∧ i ∈ b := by
  simp [meet]

theorem mem_others : i ∈ s.others a ↔ i < s.entries.size ∧ i ∉ a := by
  simp [others]

theorem mem_ascending : i ∈ Index.ascending a ↔ i ∈ a := by
  simp [Index.ascending]

theorem mem_answerEach :
    i ∈ (s.answerEach qs).positions ↔ ∃ q ∈ qs, i ∈ (s.answerFresh q).positions := by
  induction qs with
  | nil => simp [answerEach]
  | cons q qs ih => simp [answerEach, ih]

/-- The positions given before that are also in an answer. -/
def narrow (before : Option (List Nat)) (a : List Nat) : List Nat :=
  before.elim a (meet · a)

theorem answerAll_cons {before : Option (List Nat)} {q : Query} :
    s.answerAll before (q :: qs) =
      if (narrow before (s.answerFresh q).positions).isEmpty then ⟨[], (s.answerFresh q).usedIndex⟩
      else
        let rest := s.answerAll (some (narrow before (s.answerFresh q).positions)) qs
        ⟨rest.positions, (s.answerFresh q).usedIndex || rest.usedIndex⟩ := by
  cases before with
  | none => rw [answerAll]; rfl
  | some before => rw [answerAll]; rfl

/-- A conjunction that is given up early is one on which no position is left. -/
theorem mem_answerAll (h : ∀ q ∈ qs, ∀ i ∈ (s.answerFresh q).positions, i < s.entries.size)
    (before : Option (List Nat)) :
    i ∈ (s.answerAll before qs).positions ↔
      i ∈ before.getD (List.range s.entries.size) ∧ ∀ q ∈ qs, i ∈ (s.answerFresh q).positions := by
  induction qs generalizing before with
  | nil => simp [answerAll]
  | cons q qs ih =>
    -- The first term is taken as it is; only because it is in range has nothing to be cut off.
    have hnarrow : i ∈ narrow before (s.answerFresh q).positions ↔
        i ∈ before.getD (List.range s.entries.size) ∧ i ∈ (s.answerFresh q).positions := by
      cases before with
      | none =>
        rw [Option.getD_none, List.mem_range]
        exact (and_iff_right_of_imp fun hi => h q List.mem_cons_self i hi).symm
      | some before => exact mem_meet
    rw [List.forall_mem_cons, ← and_assoc, ← hnarrow, answerAll_cons]
    split
    next hempty =>
      -- The terms that are left are not asked, and could not put a position back.
      rw [List.isEmpty_iff.1 hempty]
      simp
    next => exact ih (fun q hq => h q (List.mem_cons_of_mem _ hq)) _

/-! ## Conditions -/

theorem comparisonHolds_iff {field : String} {op : CompareOp} {v : Literal} {e : Entry} :
    comparisonHolds field op (v.coerce field) e ↔ (Query.compare field op v).Holds e := by
  rw [comparisonHolds, Option.any_eq_true, Query.Holds]

theorem textTest_iff {function : TextFunction} (h : function ≠ .matches) {text : String}
    {shown : List Char} :
    textTest function (Text.lower text.toList) (Text.lower shown) ↔
      function.Holds shown (.text text) := by
  cases function with
  | contains => exact Text.hasInfix_iff
  | startsWith => exact List.isPrefixOf_iff_prefix
  | endsWith => exact List.isSuffixOf_iff_suffix
  | «matches» => exact absurd rfl h

theorem textHolds_iff {function : TextFunction} (h : function ≠ .matches) {field text : String}
    {e : Entry} :
    textHolds function field (Text.lower text.toList) e ↔
      (Query.call function field (.text text)).Holds e := by
  simp only [textHolds, Option.any_eq_true, Query.Holds, textTest_iff h]

theorem mem_matching {field source flags : String} :
    i ∈ (s.matching field source flags).positions ↔ ∃ e, s.entries[i]? = some e ∧
      ∃ value, e.field? field = some value ∧ Pattern.MatchesIn source flags value.shown := by
  unfold matching Pattern.MatchesIn
  split
  next prog hprog => simp [hprog, mem_scan, patternHolds, Option.any_eq_true]
  next _ hfault => simp [hfault]

/-! ## Sound sources -/

/-- Comparisons are answered by the positions at which they hold, and no position at which a text
    is contained is lost by narrowing down. -/
structure Sound (s : Source) : Prop where
  comparison : ∀ field op v i,
    i ∈ (s.comparison field op v).positions ↔ s.HoldsAt (.compare field op v) i
  narrowed : ∀ text positions,
    s.narrowed? .contains "message" (Text.lower text.toList) = some positions →
      ∀ i, s.HoldsAt (.call .contains "message" (.text text)) i → i ∈ positions

theorem sound_of_index_eq_none (h : s.index = none) : s.Sound where
  comparison field op v i := by
    simp only [comparison, h, Option.bind_none, mem_scan, comparisonHolds_iff, HoldsAt]
  narrowed text positions hn := by
    simp [narrowed?, h] at hn

theorem positions_call_of_narrowed {function : TextFunction} (hf : function ≠ .matches)
    {field text : String} {positions : List Nat}
    (h : s.narrowed? function field (Text.lower text.toList) = some positions) :
    (s.call function field (.text text)).positions = positions.filter fun i =>
      s.entries[i]?.any (textHolds function field (Text.lower text.toList)) := by
  cases function with
  | «matches» => exact absurd rfl hf
  | _ => simp only [call, h]

theorem positions_call_of_not_narrowed {function : TextFunction} (hf : function ≠ .matches)
    {field text : String} (h : s.narrowed? function field (Text.lower text.toList) = none) :
    (s.call function field (.text text)).positions =
      s.scan (textHolds function field (Text.lower text.toList)) := by
  cases function with
  | «matches» => exact absurd rfl hf
  | _ => simp only [call, h]

/-- Narrowing down is followed by a test of the entries that are left. -/
theorem Sound.mem_call_text (hs : s.Sound) {function : TextFunction} (hf : function ≠ .matches)
    {field text : String} :
    i ∈ (s.call function field (.text text)).positions ↔
      s.HoldsAt (.call function field (.text text)) i := by
  cases hn : s.narrowed? function field (Text.lower text.toList) with
  | none => simp only [positions_call_of_not_narrowed hf hn, mem_scan, textHolds_iff hf, HoldsAt]
  | some positions =>
    have hmem : s.HoldsAt (.call function field (.text text)) i → i ∈ positions := by
      obtain ⟨rfl, rfl⟩ : function = .contains ∧ field = "message" := by
        unfold narrowed? at hn
        split at hn
        next hcond => exact hcond
        next => cases hn
      exact hs.narrowed text positions hn i
    simp only [positions_call_of_narrowed hf hn, List.mem_filter, Option.any_eq_true,
      textHolds_iff hf]
    exact and_iff_right_of_imp hmem

theorem Sound.mem_call (hs : s.Sound) {function : TextFunction} {field : String}
    {argument : Argument} :
    i ∈ (s.call function field argument).positions ↔
      s.HoldsAt (.call function field argument) i := by
  by_cases hf : function = .matches
  · subst hf
    cases argument with
    | text source => exact mem_matching
    | pattern source flags => exact mem_matching
  · cases argument with
    | text text => exact hs.mem_call_text hf
    | pattern source flags =>
      cases function with
      | «matches» => exact absurd rfl hf
      | _ => simp [call, HoldsAt, Query.Holds, TextFunction.Holds]

/-- A sound source answers a query by the positions at which it holds. -/
theorem Sound.mem_answerFresh (hs : s.Sound) (q : Query) :
    i ∈ (s.answerFresh q).positions ↔ s.HoldsAt q i := by
  induction q using Query.induct generalizing i with
  | and terms ih =>
    have hrange : ∀ q ∈ terms, ∀ i ∈ (s.answerFresh q).positions, i < s.entries.size :=
      fun q hq i hi => ((ih q hq).1 hi).lt
    rw [answerFresh, mem_answerAll hrange, Option.getD_none, List.mem_range, holdsAt_and]
    exact and_congr_right fun _ => forall₂_congr fun q hq => ih q hq
  | or terms ih =>
    rw [answerFresh, mem_ascending, mem_answerEach, holdsAt_or]
    exact exists_congr fun q => and_congr_right fun hq => ih q hq
  | not q ih => rw [answerFresh, mem_others, ih, holdsAt_not]
  | compare field op v => exact hs.comparison field op v i
  | call function field argument => exact hs.mem_call

end Source

/-! ## Answers without an index -/

/-- The positions of an answer ascend, and no index was asked for it. -/
structure Answer.Scanned (a : Answer) : Prop where
  ascending : a.positions.Pairwise (· < ·)
  usedIndex : a.usedIndex = false

namespace Source

variable {s : Source} {a b : List Nat} {i : Nat} {qs : List Query}

theorem pairwise_scan (test : Entry → Bool) : (s.scan test).Pairwise (· < ·) :=
  List.pairwise_lt_range.filter _

theorem pairwise_ascending : (Index.ascending a).Pairwise (· < ·) :=
  Std.TreeSet.ordered_toList.imp Nat.compare_eq_lt.1

theorem scanned_answerEach (h : ∀ q ∈ qs, (s.answerFresh q).Scanned) :
    (s.answerEach qs).usedIndex = false := by
  induction qs with
  | nil => rw [answerEach]
  | cons q qs ih =>
    rw [answerEach]
    simp only [(h q List.mem_cons_self).usedIndex, Bool.false_or]
    exact ih fun q hq => h q (List.mem_cons_of_mem _ hq)

theorem scanned_answerAll (h : ∀ q ∈ qs, (s.answerFresh q).Scanned) {before : Option (List Nat)}
    (hb : ∀ b ∈ before, b.Pairwise (· < ·)) : (s.answerAll before qs).Scanned := by
  induction qs generalizing before with
  | nil =>
    rw [answerAll]
    cases before with
    | none => exact ⟨List.pairwise_lt_range, rfl⟩
    | some before => exact ⟨hb before rfl, rfl⟩
  | cons q qs ih =>
    have hq := h q List.mem_cons_self
    have hnarrow : (narrow before (s.answerFresh q).positions).Pairwise (· < ·) := by
      cases before with
      | none => exact hq.ascending
      | some before => exact (hb before rfl).filter _
    have hrest : (s.answerAll (some (narrow before (s.answerFresh q).positions)) qs).Scanned :=
      ih (fun q hq => h q (List.mem_cons_of_mem _ hq)) fun b hb => Option.mem_some.1 hb ▸ hnarrow
    rw [answerAll_cons]
    split
    next => exact ⟨List.Pairwise.nil, hq.usedIndex⟩
    next => exact ⟨hrest.ascending, by simp only [hq.usedIndex, hrest.usedIndex, Bool.or_self]⟩

theorem scanned_answerFresh (h : s.index = none) (q : Query) : (s.answerFresh q).Scanned := by
  induction q using Query.induct with
  | and terms ih =>
    rw [answerFresh]
    exact scanned_answerAll ih fun b hb => absurd hb (Option.not_mem_none b)
  | or terms ih =>
    rw [answerFresh]
    exact ⟨pairwise_ascending, scanned_answerEach ih⟩
  | not q ih =>
    rw [answerFresh]
    exact ⟨List.pairwise_lt_range.filter _, ih.usedIndex⟩
  | compare field op v =>
    simp only [answerFresh, comparison, h, Option.bind_none]
    exact ⟨pairwise_scan _, rfl⟩
  | call function field argument =>
    have hn : ∀ needle, s.narrowed? function field needle = none := fun needle => by
      simp [narrowed?, h]
    have hm : ∀ source flags, (s.matching field source flags).Scanned := fun source flags => by
      unfold matching
      split
      · exact ⟨pairwise_scan _, rfl⟩
      · exact ⟨List.Pairwise.nil, rfl⟩
    rw [answerFresh]
    unfold call
    split
    · exact hm _ _
    · exact hm _ _
    · exact ⟨List.Pairwise.nil, rfl⟩
    · simp only [hn]
      exact ⟨pairwise_scan _, rfl⟩

/-- Without an index, a query is answered by all positions at which it holds, in ascending order;
    and queries that are put together, also by extending a chain, by the intersection, the union
    and the complement of the answers. -/
theorem answer_without_index (entries : Array Entry) (p q : Query) :
    let positions (q : Query) := (answer ⟨entries, none⟩ q).positions
    ((positions q).Pairwise (· < ·) ∧
      ∀ i, i ∈ positions q ↔ ∃ e, entries[i]? = some e ∧ q.Holds e) ∧
    (∀ i, i ∈ positions (p.conj q) ↔ i ∈ positions p ∧ i ∈ positions q) ∧
    (∀ i, i ∈ positions (p.disj q) ↔ i ∈ positions p ∨ i ∈ positions q) ∧
    (∀ i, i ∈ positions q.not ↔ i < entries.size ∧ i ∉ positions q) := by
  have hmem : ∀ q i, i ∈ (answer ⟨entries, none⟩ q).positions ↔
      HoldsAt ⟨entries, none⟩ q i := fun q i => (sound_of_index_eq_none rfl).mem_answerFresh q
  refine ⟨⟨(scanned_answerFresh rfl q).ascending, fun i => hmem q i⟩, fun i => ?_, fun i => ?_,
    fun i => ?_⟩
  · rw [hmem, hmem, hmem, holdsAt_conj]
  · rw [hmem, hmem, hmem, holdsAt_disj]
  · rw [hmem, hmem, holdsAt_not]

end Source

end Logbook
