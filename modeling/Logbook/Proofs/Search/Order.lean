import Logbook.Proofs.Index.Contents
import Logbook.Search.Rank

/-!
# The order of hits

What is found for a free text stands in the order of the points, and in the order of the store where
these are equal (`pairwise_search`), for to sort keeps the order of what ranks the same
(`Hit.filter_rank`). So entries that are added later never come between the hits before them: of the
hits among all entries, those among the former ones are the former hits (`filter_search`).
-/

namespace Logbook

namespace Hit

variable {a b : Hit} {hits : List Hit}

/-- Whether a hit stands before another one, by points and then by position. -/
def Ahead (a b : Hit) : Prop :=
  b.score < a.score ∨ a.score = b.score ∧ a.position < b.position

theorem ahead_iff : a.Ahead b ↔ b.score.toNat < a.score.toNat ∨
    a.score.toNat = b.score.toNat ∧ a.position < b.position := by
  rw [Ahead, UInt32.lt_iff_toNat_lt, ← UInt32.toNat_inj]

instance : Std.Irrefl Ahead where
  irrefl a := by
    rw [ahead_iff]
    omega

instance : Std.Antisymm Ahead where
  antisymm a b hab hba := by
    rw [ahead_iff] at hab hba
    omega

/-- Hits in the order of their points. -/
def rank (hits : List Hit) : List Hit :=
  hits.mergeSort fun a b => b.score ≤ a.score

theorem score_trans (a b c : Hit) (hab : decide (b.score ≤ a.score))
    (hbc : decide (c.score ≤ b.score)) : decide (c.score ≤ a.score) := by
  rw [decide_eq_true_eq] at hab hbc ⊢
  exact UInt32.le_trans hbc hab

theorem score_total (a b : Hit) : decide (b.score ≤ a.score) || decide (a.score ≤ b.score) := by
  rw [Bool.or_eq_true, decide_eq_true_eq, decide_eq_true_eq]
  exact UInt32.le_total b.score a.score

theorem mem_rank : a ∈ rank hits ↔ a ∈ hits :=
  (List.mergeSort_perm hits _).mem_iff

theorem pairwise_score_rank (hits : List Hit) :
    (rank hits).Pairwise fun a b => b.score ≤ a.score :=
  (List.pairwise_mergeSort score_trans score_total hits).imp of_decide_eq_true

/-- To rank hits keeps the order of those with the same points. -/
theorem filter_rank (hits : List Hit) (points : UInt32) :
    (rank hits).filter (·.score = points) = hits.filter (·.score = points) := by
  -- Hits with the same points are in order already, so they are kept as a sublist, and all of them.
  have hequal : (hits.filter (·.score = points)).Pairwise
      fun a b => decide (b.score ≤ a.score) := by
    refine List.pairwise_iff_forall_sublist.2 fun {a b} hab => ?_
    have hscore : ∀ hit ∈ [a, b], hit.score = points := fun hit hmem =>
      of_decide_eq_true (List.mem_filter.1 (hab.subset hmem)).2
    rw [hscore a (by simp), hscore b (by simp)]
    exact decide_eq_true (UInt32.le_refl points)
  have hsublist : (hits.filter (·.score = points)).Sublist
      ((rank hits).filter (·.score = points)) := by
    have h := (List.sublist_mergeSort score_trans score_total hequal List.filter_sublist).filter
      (·.score = points)
    rw [List.filter_filter] at h
    simp only [Bool.and_self] at h
    exact h
  exact (hsublist.eq_of_length ((List.mergeSort_perm hits _).filter _).length_eq.symm).symm

/-- Hits in the order of the store are put into the order of hits. -/
theorem pairwise_rank (h : hits.Pairwise fun a b => a.position < b.position) :
    (rank hits).Pairwise Ahead := by
  refine List.pairwise_iff_forall_sublist.2 fun {a b} hab => ?_
  have hscore : b.score ≤ a.score :=
    List.pairwise_iff_forall_sublist.1 (pairwise_score_rank hits) hab
  rcases UInt32.lt_or_eq_of_le hscore with hlt | heq
  · exact .inl hlt
  · -- Both have the same points, so they stand in the order in which they came.
    have hsame : [a, b].Sublist (hits.filter (·.score = a.score)) := by
      have hfilter := hab.filter (·.score = a.score)
      rwa [filter_rank, List.filter_eq_self.2 (by simp [heq])] at hfilter
    exact .inr ⟨heq.symm, List.pairwise_iff_forall_sublist.1 (h.filter _) hsame⟩

end Hit

/-! ## Searching -/

variable {s : Settings} {entries : Array Entry} {text : String} {hit : Hit}

/-- The points of an entry that is found; if nothing is asked for, every entry is. -/
def points? (s : Settings) (terms : SearchTerms) (e : Entry) : Option UInt32 :=
  if terms.isEmpty then some 0 else score? s terms e

/-- The hits in the order of the store. -/
def found (s : Settings) (entries : Array Entry) (text : String) : List Hit :=
  (Index.placed entries.toList 0).filterMap fun (e, i) =>
    (points? s (SearchTerms.ofText text) e).map fun points => ⟨i, points⟩

theorem search_eq (s : Settings) (entries : Array Entry) (text : String) :
    search s entries text = Hit.rank (found s entries text) := by
  unfold search found points?
  dsimp only
  split
  next hempty =>
    -- Hits without points are ranked already.
    have hsame : (entries.toList.zipIdx.map fun q => Hit.mk q.2 0).Pairwise
        fun a b => decide (b.score ≤ a.score) :=
      List.pairwise_map.2 (List.pairwise_of_forall fun _ _ => rfl)
    simp only [Option.map_some, List.filterMap_eq_map', Hit.rank]
    exact (List.mergeSort_of_pairwise hsame).symm
  next hempty => rfl

theorem mem_found : hit ∈ found s entries text ↔ ∃ e, entries[hit.position]? = some e ∧
    points? s (SearchTerms.ofText text) e = some hit.score := by
  rw [found, List.mem_filterMap]
  constructor
  · rintro ⟨⟨e, i⟩, hmem, hhit⟩
    obtain ⟨points, hpoints, rfl⟩ := Option.map_eq_some_iff.1 hhit
    exact ⟨e, by simpa using Index.mem_placed.1 hmem, hpoints⟩
  · rintro ⟨e, he, hpoints⟩
    exact ⟨(e, hit.position), Index.mem_placed.2 (by simpa using he),
      Option.map_eq_some_iff.2 ⟨hit.score, hpoints, rfl⟩⟩

theorem pairwise_found (s : Settings) (entries : Array Entry) (text : String) :
    (found s entries text).Pairwise fun a b => a.position < b.position := by
  refine List.pairwise_filterMap.2
    ((Index.pairwise_placed entries.toList).imp fun hlt a ha b hb => ?_)
  obtain ⟨_, -, rfl⟩ := Option.map_eq_some_iff.1 ha
  obtain ⟨_, -, rfl⟩ := Option.map_eq_some_iff.1 hb
  exact hlt

theorem mem_search : hit ∈ search s entries text ↔ ∃ e, entries[hit.position]? = some e ∧
    points? s (SearchTerms.ofText text) e = some hit.score := by
  rw [search_eq, Hit.mem_rank, mem_found]

theorem pairwise_search (s : Settings) (entries : Array Entry) (text : String) :
    (search s entries text).Pairwise Hit.Ahead := by
  rw [search_eq]
  exact Hit.pairwise_rank (pairwise_found s entries text)

/-- Entries that are added at the end change nothing in what is found among those before them. -/
theorem filter_search {entries' : Array Entry}
    (hkept : ∀ i < entries.size, entries'[i]? = entries[i]?) :
    (search s entries' text).filter (·.position < entries.size) = search s entries text := by
  refine ((pairwise_search s entries' text).filter _).eq_of_mem_iff (pairwise_search s entries text)
    fun hit => ?_
  rw [List.mem_filter, mem_search, mem_search, decide_eq_true_eq]
  constructor
  · rintro ⟨⟨e, he, hpoints⟩, hi⟩
    exact ⟨e, hkept _ hi ▸ he, hpoints⟩
  · rintro ⟨e, he, hpoints⟩
    have hi := (Array.getElem?_eq_some_iff.1 he).1
    exact ⟨⟨e, (hkept _ hi).trans he, hpoints⟩, hi⟩

end Logbook
