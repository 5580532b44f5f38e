import Logbook.Proofs.Search.Quotes
import Logbook.Proofs.Text.Lowering

/-!
# Asking for what is not known as well

A query behind the word `unknown` and a blank has the terms of the query and asks for the entries of
which something could not be told besides (`SearchTerms.ofText_unknown`): the word stands in the
first piece of the text, which is outside of quotes whatever quotes follow, and it becomes no stem.

An entry then keeps the points it had, and has more if something could not be told of it
(`points?_unknown`). So the hits are those of the query together with these entries
(`search_unknown`). Points are added in 32 bits, before the word and behind it, so this holds of
points that have wrapped around as well; if the sum fits, it is that of the natural numbers.
-/

namespace Logbook

variable {s : Settings} {t : SearchTerms} {e : Entry} {entries : Array Entry} {query : String}

namespace SearchTerms

/-! ## The word in front of a query -/

theorem lower_unknown (query : String) : Text.lower ("unknown " ++ query).toList =
    unknownWord ++ ' ' :: Text.lower query.toList := by
  have hsmall : Text.lower unknownWord = unknownWord := by decide +kernel
  have hfront : ("unknown " ++ query).toList = unknownWord ++ ' ' :: query.toList := by
    rw [String.toList_append]
    rfl
  rw [hfront, Text.lower_append_cons (Text.isBarrier (.inl (by decide))), hsmall]

/-- The word and the blank go into the first piece, and the others stay as they are. -/
theorem pieces_unknown (query : String) : ∃ piece rest, pieces query = piece :: rest ∧
    pieces ("unknown " ++ query) = (unknownWord ++ ' ' :: piece) :: rest := by
  obtain ⟨piece, rest, hpieces⟩ :=
    List.exists_cons_of_ne_nil (List.splitOn_ne_nil '"' (Text.lower query.toList))
  refine ⟨piece, rest, hpieces, ?_⟩
  have hnone : ∀ c ∈ unknownWord ++ [' '], ¬(c == '"') = true := fun c hc hquote =>
    absurd (eq_of_beq hquote ▸ hc) (by decide)
  have hfront := Text.splitOnP_append hnone (Text.lower query.toList)
  rw [← List.splitOn_eq_splitOnP, ← List.splitOn_eq_splitOnP, hpieces, List.modifyHead_cons,
    List.append_assoc, List.append_assoc, List.singleton_append, List.singleton_append,
    ← lower_unknown] at hfront
  exact hfront

theorem words_unknown (query : String) :
    words ("unknown " ++ query) = unknownWord :: words query := by
  obtain ⟨piece, rest, hpieces, hpieces'⟩ := pieces_unknown query
  obtain ⟨others, hothers⟩ := exists_outsideQuotes_eq rest
  have hword : Text.runs isSeparator unknownWord = [unknownWord] := by decide
  rw [words, words, hpieces, hpieces', hothers, hothers, List.flatMap_cons, List.flatMap_cons,
    Text.runs_append_cons (by decide), hword]
  rfl

/-- The word is no term by itself. -/
theorem stems_unknown (query : String) : stems ("unknown " ++ query) = stems query := by
  rw [stems, words_unknown, List.filter_cons_of_neg (by simp), stems]

/-- A query behind the word has the same terms. -/
theorem ofText_unknown (query : String) :
    ofText ("unknown " ++ query) = { ofText query with unknown := true } := by
  obtain ⟨piece, rest, hpieces, hpieces'⟩ := pieces_unknown query
  have hasked : (unknownWord :: words query).contains unknownWord :=
    List.contains_iff_mem.2 List.mem_cons_self
  rw [ofText_eq, ofText_eq, stems_unknown, words_unknown, hasked, hpieces, hpieces',
    insideQuotes_congr_head _ piece]

end SearchTerms

/-! ## Points -/

theorem Entry.isUnknown_iff : e.isUnknown ↔ e.level = .unknown ∨ e.environment = .unknown := by
  rw [Entry.isUnknown, Bool.or_eq_true, decide_eq_true_eq, decide_eq_true_eq]

theorem points?_of_hasTerms (h : t.hasTerms) : points? s t e = score? s t e := by
  rw [points?, SearchTerms.isEmpty, h]
  rfl

/-- To be asked for because something could not be told of it brings an entry further points. -/
theorem points?_unknown (hterms : t.hasTerms) (hunknown : ¬t.unknown) :
    points? s { t with unknown := true } e =
      if e.isUnknown then some ((points? s t e).getD 0 + unknownPoints) else points? s t e := by
  have hterms' : ({ t with unknown := true } : SearchTerms).hasTerms := hterms
  have hbefore : score? s t e = if matchesTerms s e.searchText t then
      some (relevance s e.searchText t) else none := by
    rw [score?, hterms, Bool.eq_false_iff.2 hunknown]
    cases matchesTerms s e.searchText t
    · rfl
    · exact congrArg some (UInt32.add_zero _)
  -- The terms that bring points are the same.
  have hbehind : score? s { t with unknown := true } e =
      if e.isUnknown || matchesTerms s e.searchText t then
        some ((if matchesTerms s e.searchText t then relevance s e.searchText t else 0) +
          if e.isUnknown then unknownPoints else 0)
      else none := by
    rw [score?, hterms']
    rfl
  rw [points?_of_hasTerms hterms, points?_of_hasTerms hterms', hbefore, hbehind]
  cases e.isUnknown
  · cases matchesTerms s e.searchText t
    · rfl
    · exact congrArg some (UInt32.add_zero _)
  · -- An entry that was no hit has the further points alone.
    cases matchesTerms s e.searchText t <;> rfl

/-- Further points are added as natural numbers, if the sum fits. -/
theorem toNat_plus_unknown {points : UInt32} (h : points.toNat + 30 < 2 ^ 32) (p : Prop)
    [Decidable p] :
    (points + if p then 30 else 0).toNat = points.toNat + if p then 30 else 0 := by
  have hmore : (if p then 30 else 0 : UInt32).toNat = if p then 30 else 0 := by
    split <;> rfl
  rw [UInt32.toNat_add, hmore]
  refine Nat.mod_eq_of_lt ?_
  split <;> omega

namespace Hit

/-- The points of the entry at a position, none if it is no hit. -/
def scoreAt (hits : List Hit) (i : Nat) : UInt32 :=
  ((hits.find? (·.position = i)).map (·.score)).getD 0

end Hit

theorem scoreAt_search {i : Nat} (he : entries[i]? = some e) :
    Hit.scoreAt (search s entries query) i =
      (points? s (SearchTerms.ofText query) e).getD 0 := by
  rw [Hit.scoreAt]
  cases hfind : (search s entries query).find? (·.position = i) with
  | some hit =>
    obtain ⟨e', he', hpoints⟩ := mem_search.1 (List.mem_of_find?_eq_some hfind)
    have hposition : hit.position = i := by simpa using List.find?_some hfind
    obtain rfl := Option.some.inj (he.symm.trans (hposition ▸ he'))
    rw [hpoints]
    rfl
  | none =>
    cases hpoints : points? s (SearchTerms.ofText query) e with
    | none => rfl
    | some points =>
      -- Then the entry would be a hit.
      have hmem : ⟨i, points⟩ ∈ search s entries query := mem_search.2 ⟨e, he, hpoints⟩
      exact absurd (decide_eq_true rfl) (List.find?_eq_none.1 hfind _ hmem)

/-- Behind the word `unknown`, a query that does not ask for what is not known by itself finds the
    entries that it finds otherwise, with their points, and all of which something could not be
    told. These have further points, and the order is that of the new sums. A sum is one in 32 bits
    like every score, and that of the natural numbers if it fits. -/
theorem search_unknown (s : Settings) (entries : Array Entry) {query : String}
    (hterms : (SearchTerms.ofText query).hasTerms)
    (hunknown : ¬(SearchTerms.ofText query).unknown) :
    let hits := search s entries query
    let hits' := search s entries ("unknown " ++ query)
    (∀ i, i ∈ hits'.map (·.position) ↔ i ∈ hits.map (·.position) ∨
      ∃ e, entries[i]? = some e ∧ (e.level = .unknown ∨ e.environment = .unknown)) ∧
    (∀ hit ∈ hits', ∀ e, entries[hit.position]? = some e →
      hit.score = Hit.scoreAt hits hit.position +
        (if e.level = .unknown ∨ e.environment = .unknown then 30 else 0) ∧
      ((Hit.scoreAt hits hit.position).toNat + 30 < 2 ^ 32 →
        hit.score.toNat = (Hit.scoreAt hits hit.position).toNat +
          if e.level = .unknown ∨ e.environment = .unknown then 30 else 0)) ∧
    (hits'.map (·.position)).Nodup ∧ hits'.Pairwise Hit.Ahead := by
  intro hits hits'
  -- All of it is told by the points of one entry at a time.
  have hpoints : ∀ e, points? s (SearchTerms.ofText ("unknown " ++ query)) e =
      if e.isUnknown then some ((points? s (SearchTerms.ofText query) e).getD 0 + unknownPoints)
      else points? s (SearchTerms.ofText query) e := fun e => by
    rw [SearchTerms.ofText_unknown, points?_unknown hterms hunknown]
  refine ⟨fun i => ?_, fun hit hmem e he => ?_, nodup_positions_search s entries _,
    pairwise_search s entries _⟩
  · simp only [hits, hits', mem_positions_search, hpoints, ← Entry.isUnknown_iff]
    rw [← exists_or]
    refine exists_congr fun e => ?_
    rw [← and_or_left]
    refine and_congr_right fun _ => ?_
    cases e.isUnknown <;> simp
  · have hsum : hit.score = Hit.scoreAt hits hit.position +
        if e.level = .unknown ∨ e.environment = .unknown then 30 else 0 := by
      obtain ⟨e', he', hscore⟩ := mem_search.1 hmem
      obtain rfl := Option.some.inj (he.symm.trans he')
      rw [hpoints] at hscore
      simp only [hits, scoreAt_search he, ← Entry.isUnknown_iff]
      split at hscore
      next hknown =>
        rw [if_pos hknown]
        exact (Option.some.inj hscore).symm
      next hknown =>
        rw [if_neg hknown, hscore]
        exact (UInt32.add_zero _).symm
    refine ⟨hsum, fun hfits => ?_⟩
    rw [hsum, toNat_plus_unknown hfits]

/-- Of the first entry everything is told. The level of the second one is not, and the phrase stands
    in it. The third one is no hit otherwise. -/
theorem search_unknown_declined :
    let entries : Array Entry := #[.text "ERROR env=prod card declined", .text "card declined",
      .text "started"]
    let query := "\"card declined\" \"cards"
    let hits := search {} entries query
    let hits' := search {} entries ("unknown " ++ query)
    (SearchTerms.ofText query).hasTerms ∧ ¬(SearchTerms.ofText query).unknown ∧
      ⟨1, 145⟩ ∈ hits ∧ 2 ∉ hits.map (·.position) ∧
      0 ∈ hits'.map (·.position) ∧ 2 ∈ hits'.map (·.position) ∧
      ∀ hit ∈ hits', hit.position = 1 → hit.score = 145 + 30 := by
  intro entries query hits hits'
  have hterms : (SearchTerms.ofText query).hasTerms := by decide +kernel
  have hunknown : ¬(SearchTerms.ofText query).unknown := by decide +kernel
  obtain ⟨hpositions, hscores, -, -⟩ := search_unknown {} entries hterms hunknown
  have hsecond : ⟨1, 145⟩ ∈ hits := mem_search.2 ⟨_, rfl, by decide +kernel⟩
  have hfirst : 0 ∈ hits.map (·.position) :=
    mem_positions_search.2 ⟨_, rfl, 130, by decide +kernel⟩
  have hthird : 2 ∈ hits'.map (·.position) := by
    refine (hpositions 2).2 (.inr ⟨.text "started", rfl, ?_⟩)
    decide +kernel
  refine ⟨hterms, hunknown, hsecond, fun hmem => ?_, (hpositions 0).2 (.inl hfirst), hthird,
    fun hit hmem hposition => ?_⟩
  · obtain ⟨e, he, points, hpoints⟩ := mem_positions_search.1 hmem
    obtain rfl := Option.some.inj he
    have hnone : points? {} (SearchTerms.ofText query) (.text "started") = none := by
      decide +kernel
    exact Option.some_ne_none points (hpoints.symm.trans hnone)
  · have hentry : entries[hit.position]? = some (.text "card declined") := by
      rw [hposition]
      rfl
    rw [(hscores hit hmem _ hentry).1, scoreAt_search hentry]
    decide +kernel

end Logbook
