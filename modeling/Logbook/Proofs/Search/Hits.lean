import Logbook.Proofs.Search.Counting
import Logbook.Proofs.Search.Order

/-!
# What is found, and with how many points

The stems of a query have at least one character (`ne_nil_of_mem_tokens`), so that each one that is
found is worth something, and with it every hit (`exists_score?_iff`, `entryWorth_pos`). What an
entry is worth are its points, if it fits in 32 bits (`toNat_points?`).

`search_ranked` puts this together with the order of hits: every entry that is asked for stands once
among them, and no other one.
-/

namespace Logbook

variable {s : Settings} {t : SearchTerms} {e : Entry} {text token word : List Char}

/-! ## Terms -/

/-- A stem keeps at least two characters of a longer word. -/
theorem stem_ne_nil (h : word ≠ []) : stem word ≠ [] := by
  rw [stem]
  split
  next ending hfind =>
    have hlose := List.find?_some hfind
    rw [canLose, Bool.and_eq_true, decide_eq_true_eq] at hlose
    have hlength : 2 ≤ word.length - ending.length := by omega
    rw [ne_eq, List.take_eq_nil_iff]
    rintro (hzero | hnil)
    · omega
    · exact h hnil
  next => exact h

namespace SearchTerms

theorem ne_nil_of_mem_tokens {query : String} (h : token ∈ (ofText query).tokens) :
    token ≠ [] := by
  obtain ⟨word, hword, rfl⟩ := List.mem_map.1 (List.mem_eraseDups.1 h)
  obtain ⟨piece, -, hrun⟩ := List.mem_flatMap.1 (List.mem_filter.1 hword).1
  have hne : word ≠ [] := by simpa using (List.mem_filter.1 hrun).2
  exact stem_ne_nil hne

/-- Whether terms ask for an entry: what they want to know of it could not be told, or its text
    matches. -/
def AskFor (t : SearchTerms) (s : Settings) (e : Entry) : Prop :=
  t.unknown ∧ (e.level = .unknown ∨ e.environment = .unknown) ∨
    t.hasTerms ∧ matchesTerms s e.searchText t

instance (t : SearchTerms) (s : Settings) (e : Entry) : Decidable (t.AskFor s e) :=
  inferInstanceAs (Decidable (_ ∨ _))

end SearchTerms

/-! ## Points -/

/-- What an entry is worth: what its text is, if it matches, and more if something could not be told
    of the entry and that is asked for. -/
def entryWorth (s : Settings) (t : SearchTerms) (e : Entry) : Nat :=
  (if t.hasTerms && matchesTerms s e.searchText t then textWorth s e.searchText t else 0) +
    if t.unknown && e.isUnknown then unknownPoints.toNat else 0

/-- An entry has points if it is asked for. -/
theorem exists_score?_iff : (∃ points, score? s t e = some points) ↔ t.AskFor s e := by
  rw [score?, SearchTerms.AskFor, Entry.isUnknown]
  split
  next h => simpa using h
  next h => simpa using h

theorem entryWorth_pos (htokens : ∀ token ∈ t.tokens, token ≠ []) {points : UInt32}
    (h : score? s t e = some points) : 0 < entryWorth s t e := by
  rw [score?] at h
  split at h
  next hfound =>
    rw [entryWorth]
    rcases Bool.or_eq_true _ _ ▸ hfound with hunknown | hmatched
    · rw [if_pos hunknown, toNat_unknownPoints]
      omega
    · rw [if_pos hmatched]
      rw [Bool.and_eq_true] at hmatched
      have := textWorth_pos htokens hmatched.1 hmatched.2
      omega
  next => contradiction

/-- The points of an entry are what it is worth, if that fits. -/
theorem score?_eq (hfits : entryWorth s t e < UInt32.size) {points : UInt32}
    (h : score? s t e = some points) : points = .ofNat (entryWorth s t e) := by
  rw [score?] at h
  split at h
  next =>
    obtain rfl := Option.some.inj h
    rw [entryWorth, UInt32.ofNat_add, ofNat_ite]
    rw [entryWorth] at hfits
    congr 1
    split
    next hmatched =>
      rw [if_pos hmatched] at hfits
      exact relevance_eq (Nat.lt_of_le_of_lt (Nat.le_add_right _ _) hfits)
    next => rfl
  next => contradiction

theorem entryWorth_of_isEmpty (h : t.isEmpty) : entryWorth s t e = 0 := by
  rw [SearchTerms.isEmpty, Bool.and_eq_true, Bool.not_eq_true', Bool.not_eq_true'] at h
  rw [entryWorth, h.1, h.2]
  rfl

theorem toNat_points? (hfits : entryWorth s t e < UInt32.size) {points : UInt32}
    (h : points? s t e = some points) : points.toNat = entryWorth s t e := by
  rw [points?] at h
  split at h
  next hempty =>
    obtain rfl := Option.some.inj h
    exact (entryWorth_of_isEmpty hempty).symm
  next => rw [score?_eq hfits h, UInt32.toNat_ofNat_of_lt' hfits]

/-! ## Hits -/

variable {entries : Array Entry} {query : String} {i : Nat}

theorem mem_positions_search : i ∈ (search s entries query).map (·.position) ↔
    ∃ e, entries[i]? = some e ∧ ∃ points, points? s (SearchTerms.ofText query) e = some points := by
  rw [List.mem_map]
  constructor
  · rintro ⟨hit, hmem, rfl⟩
    obtain ⟨e, he, hpoints⟩ := mem_search.1 hmem
    exact ⟨e, he, hit.score, hpoints⟩
  · rintro ⟨e, he, points, hpoints⟩
    exact ⟨⟨i, points⟩, mem_search.2 ⟨e, he, hpoints⟩, rfl⟩

theorem nodup_positions_search (s : Settings) (entries : Array Entry) (query : String) :
    ((search s entries query).map (·.position)).Nodup := by
  -- The hits are the same as those in the order of the store, where positions increase.
  rw [search_eq]
  refine ((List.mergeSort_perm _ _).map Hit.position).nodup_iff.2 ?_
  exact List.pairwise_map.2 ((pairwise_found s entries query).imp Nat.ne_of_lt)

theorem search_of_isEmpty (h : (SearchTerms.ofText query).isEmpty) :
    search s entries query = (List.range entries.size).map (⟨·, 0⟩) := by
  rw [search, if_pos h, List.range_eq_range', ← Array.length_toList, ← List.zipIdx_map_snd,
    List.map_map]
  rfl

/-- If free text asks for nothing, every entry is a hit, in the order of the store and without
    points. Otherwise the hits are the entries that it asks for, each once, and with points as many
    as it is worth, if that fits in 32 bits. Either way hits stand in the order of their points, and
    in that of the store among equals. -/
theorem search_ranked (s : Settings) (entries : Array Entry) (query : String) :
    ((SearchTerms.ofText query).isEmpty →
      search s entries query = (List.range entries.size).map (⟨·, 0⟩)) ∧
    (¬(SearchTerms.ofText query).isEmpty →
      (∀ i, i ∈ (search s entries query).map (·.position) ↔
        ∃ e, entries[i]? = some e ∧ (SearchTerms.ofText query).AskFor s e) ∧
      ((search s entries query).map (·.position)).Nodup ∧
      ∀ hit ∈ search s entries query, ∀ e, entries[hit.position]? = some e →
        entryWorth s (.ofText query) e < 2 ^ 32 →
          0 < hit.score ∧ hit.score.toNat = entryWorth s (.ofText query) e) ∧
    (search s entries query).Pairwise Hit.Ahead := by
  refine ⟨search_of_isEmpty, fun hasked => ⟨fun i => ?_, nodup_positions_search s entries query,
    fun hit hmem e he hfits => ?_⟩, pairwise_search s entries query⟩
  · rw [mem_positions_search]
    simp only [points?, if_neg hasked, exists_score?_iff]
  · obtain ⟨e', he', hpoints⟩ := mem_search.1 hmem
    obtain rfl := Option.some.inj (he.symm.trans he')
    have hworth := toNat_points? hfits hpoints
    rw [points?, if_neg hasked] at hpoints
    refine ⟨?_, hworth⟩
    rw [UInt32.lt_iff_toNat_lt, hworth]
    exact entryWorth_pos (fun _ => SearchTerms.ne_nil_of_mem_tokens) hpoints

/-- The stem is found in the second entry, and of the first one nothing can be told. -/
theorem search_ranked_unknown :
    let entries : Array Entry :=
      #[.text "started", .text "ERROR env=prod request failed", .text "ERROR env=prod stopped"]
    let hits := search {} entries "failing, unknown"
    let positions := hits.map (·.position)
    0 ∈ positions ∧ 1 ∈ positions ∧ 2 ∉ positions ∧
      (∀ hit ∈ hits, hit.position = 1 → 0 < hit.score ∧ hit.score.toNat = 30) ∧
      search {} entries " , " = [⟨0, 0⟩, ⟨1, 0⟩, ⟨2, 0⟩] := by
  intro entries hits positions
  have hasked : ¬(SearchTerms.ofText "failing, unknown").isEmpty := by decide +kernel
  have hblank : (SearchTerms.ofText " , ").isEmpty := by decide +kernel
  obtain ⟨hfound, -, hscores⟩ := (search_ranked {} entries "failing, unknown").2.1 hasked
  refine ⟨(hfound 0).2 ⟨_, rfl, by decide +kernel⟩, (hfound 1).2 ⟨_, rfl, by decide +kernel⟩,
    fun hmem => ?_, fun hit hmem hposition => ?_, (search_ranked {} entries " , ").1 hblank⟩
  · obtain ⟨e, he, hasks⟩ := (hfound 2).1 hmem
    obtain rfl := Option.some.inj he
    exact absurd hasks (by decide +kernel)
  · have hentry : entries[hit.position]? = some (.text "ERROR env=prod request failed") := by
      rw [hposition]
      rfl
    obtain ⟨hpos, hworth⟩ := hscores hit hmem _ hentry (by decide +kernel)
    exact ⟨hpos, hworth.trans (by decide +kernel)⟩

end Logbook
