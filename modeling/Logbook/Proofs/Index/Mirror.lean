import Logbook.Proofs.Index.Answers

/-!
# Indexes as mirrors

An index that follows entries holds what the fields of the entries say and nothing else, however
the entries came in (`Index.mirrors_build`). To post an entry adds its position under the keys
that the entry has, at the end and once, even if a keyword stands twice in a message
(`Postings.Grows`); so what is listed under a key stays in ascending order, and a key is listed only
for an entry that has it (`Postings.Mirrors.grow`).
-/

namespace Logbook

namespace Postings

variable {p p' : Postings} {key k : String} {i : Nat} {es : List Entry} {e : Entry}
  {has : Entry → String → Prop}

/-- Under every key stand the positions of the entries that have it, in ascending order and each
    once, and a key that no entry has is absent. -/
structure Mirrors (p : Postings) (es : List Entry) (has : Entry → String → Prop) : Prop where
  ascending (k : String) : (p.under k).toList.Pairwise (· < ·)
  mem (k : String) (i : Nat) : i ∈ p.under k ↔ ∃ e, es[i]? = some e ∧ has e k
  absent (k : String) (h : ∀ e ∈ es, ¬has e k) : p[k]? = none

/-- A position has been added under some keys, at the end, and nothing else has changed. -/
structure Grows (p p' : Postings) (i : Nat) (new : String → Prop) : Prop where
  listed {k : String} (h : new k) : p'.under k = (p.under k).push i
  same {k : String} (h : ¬new k) : p'[k]? = p[k]?

theorem under_eq_of_getElem?_eq (h : p'[k]? = p[k]?) : p'.under k = p.under k := by
  rw [under, under, Std.TreeMap.getD_eq_getD_getElem?, h, Std.TreeMap.getD_eq_getD_getElem?]

theorem mirrors_empty : (∅ : Postings).Mirrors [] has where
  ascending k := by
    rw [under_empty]
    exact .nil
  mem k i := by simp [under_empty]
  absent k _ := Std.TreeMap.getElem?_emptyc

/-- The last of some entries stands at the position after the others. -/
theorem exists_getElem?_concat {test : Entry → Prop} :
    (∃ e', (es ++ [e])[i]? = some e' ∧ test e') ↔
      (∃ e', es[i]? = some e' ∧ test e') ∨ test e ∧ i = es.length := by
  rcases Nat.lt_trichotomy i es.length with hi | rfl | hi
  · simp [List.getElem?_append_left hi, Nat.ne_of_lt hi]
  · simp
  · have hlast : (es ++ [e])[i]? = none := List.getElem?_eq_none (by simp; omega)
    have hall : es[i]? = none := List.getElem?_eq_none (Nat.le_of_lt hi)
    simp [hlast, hall, Nat.ne_of_gt hi]

theorem Mirrors.grow (h : p.Mirrors es has) (hg : p.Grows p' es.length (has e)) :
    p'.Mirrors (es ++ [e]) has where
  ascending k := by
    by_cases hk : has e k
    · rw [hg.listed hk, Array.toList_push, List.pairwise_append]
      -- The new position comes after all entries that there were.
      refine ⟨h.ascending k, List.pairwise_singleton _ _, fun j hj l hl => ?_⟩
      obtain ⟨e', he', -⟩ := (h.mem k j).1 (Array.mem_toList_iff.1 hj)
      rw [List.mem_singleton.1 hl]
      exact (List.getElem?_eq_some_iff.1 he').1
    · rw [under_eq_of_getElem?_eq (hg.same hk)]
      exact h.ascending k
  mem k i := by
    rw [exists_getElem?_concat, ← h.mem]
    by_cases hk : has e k
    · rw [hg.listed hk, Array.mem_push]
      simp only [hk, true_and]
    · rw [under_eq_of_getElem?_eq (hg.same hk)]
      simp only [hk, false_and, or_false]
  absent k hk := by
    obtain ⟨hothers, hlast⟩ := List.forall_mem_append.1 hk
    rw [hg.same (hlast e (List.mem_singleton_self e))]
    exact h.absent k hothers

/-- If every entry has one key, every position stands under one key. -/
theorem Mirrors.existsUnique {f : Entry → String} (h : p.Mirrors es fun e k => f e = k)
    (hi : i < es.length) : ∃! k, i ∈ p.under k := by
  have hget : es[i]? = some es[i] := List.getElem?_eq_getElem hi
  refine ⟨f es[i], (h.mem _ i).2 ⟨_, hget, rfl⟩, fun k hk => ?_⟩
  obtain ⟨e, he, rfl⟩ := (h.mem k i).1 hk
  rw [Option.some.inj (hget.symm.trans he)]

theorem push_grows (p : Postings) (key : String) (i : Nat) :
    p.Grows (p.push key i) i (key = ·) where
  listed hk := by rw [under_push, if_pos hk]
  same hk := by
    rw [push, Std.TreeMap.getElem?_alter, if_neg (by rwa [Std.compare_eq_iff_eq])]

theorem under_pushNew (p : Postings) (key k : String) (i : Nat) :
    (p.pushNew key i).under k =
      if key = k ∧ (p.under k).back? ≠ some i then (p.under k).push i else p.under k := by
  rw [under, pushNew, Std.TreeMap.getD_alter, under, Std.TreeMap.getD_eq_getD_getElem?]
  simp only [Std.compare_eq_iff_eq]
  split
  next h =>
    subst h
    rw [Option.getD_some]
    by_cases hlast : (p[key]?.getD #[]).back? = some i
    · simp [hlast]
    · simp [hlast]
  next h => rw [if_neg fun h' => h h'.1]

/-- A position that was the last one to be added is not added again. -/
theorem under_foldl_pushNew_of_back? {keys : List String} (h : (p.under k).back? = some i) :
    (keys.foldl (fun p key => p.pushNew key i) p).under k = p.under k := by
  induction keys generalizing p with
  | nil => rfl
  | cons key keys ih =>
    have hsame : (p.pushNew key i).under k = p.under k := by
      rw [under_pushNew, if_neg fun hk => hk.2 h]
    rw [List.foldl_cons, ih (by rwa [hsame]), hsame]

theorem under_foldl_pushNew {keys : List String} (hk : k ∈ keys) (hnew : i ∉ p.under k) :
    (keys.foldl (fun p key => p.pushNew key i) p).under k = (p.under k).push i := by
  induction keys generalizing p with
  | nil => exact absurd hk List.not_mem_nil
  | cons key keys ih =>
    rw [List.foldl_cons]
    by_cases hkey : key = k
    · have hpush : (p.pushNew key i).under k = (p.under k).push i := by
        rw [under_pushNew, if_pos ⟨hkey, fun hback => hnew (Array.mem_of_back? hback)⟩]
      rw [under_foldl_pushNew_of_back? (by rw [hpush, Array.back?_push]), hpush]
    · have hsame : (p.pushNew key i).under k = p.under k := by
        rw [under_pushNew, if_neg fun h => hkey h.1]
      have hmem : k ∈ keys := (List.mem_cons.1 hk).resolve_left (Ne.symm hkey)
      rw [ih hmem (by rwa [hsame]), hsame]

theorem getElem?_foldl_pushNew {keys : List String} (hk : k ∉ keys) :
    (keys.foldl (fun p key => p.pushNew key i) p)[k]? = p[k]? := by
  induction keys generalizing p with
  | nil => rfl
  | cons key keys ih =>
    obtain ⟨hkey, hkeys⟩ := not_or.1 (mt List.mem_cons.2 hk)
    rw [List.foldl_cons, ih hkeys, pushNew, Std.TreeMap.getElem?_alter,
      if_neg (by rw [Std.compare_eq_iff_eq]; exact Ne.symm hkey)]

/-- A new position is added once under each of some keys, also under one that is among them more
    than once. -/
theorem foldl_pushNew_grows (hnew : ∀ k, i ∉ p.under k) (keys : List String) :
    p.Grows (keys.foldl (fun p key => p.pushNew key i) p) i (· ∈ keys) where
  listed hk := under_foldl_pushNew hk (hnew _)
  same hk := getElem?_foldl_pushNew hk

end Postings

namespace Index

variable {x : Index} {es : List Entry} {i : Nat}

/-- What every entry posted by an index adds to its postings is what they mirror. Here `postings` is
    one of the postings of an index. -/
theorem mirrors_postAll (postings : Index → Postings) {has : Entry → String → Prop}
    (hempty : postings x.clear = ∅)
    (hpost : ∀ log e i, (∀ k, i ∉ (postings (x.clear.postAll log)).under k) →
      (postings (x.clear.postAll log)).Grows (postings ((x.clear.postAll log).post e i)) i (has e))
    (es : List Entry) : (postings (x.clear.postAll (placed es 0))).Mirrors es has := by
  induction es using List.reverseRecOn with
  | nil =>
    show (postings x.clear).Mirrors [] has
    rw [hempty]
    exact Postings.mirrors_empty
  | append_singleton es e ih =>
    rw [placed_append, postAll_append, Nat.zero_add]
    -- All positions so far are those of the entries before this one.
    refine ih.grow (hpost _ e es.length fun k hk => ?_)
    obtain ⟨e', he', -⟩ := (ih.mem k _).1 hk
    exact Nat.lt_irrefl _ (List.getElem?_eq_some_iff.1 he').1

/-- Postings to which every entry adds its position under one key. -/
theorem mirrors_build_of_push (postings : Index → Postings) (f : Entry → String)
    (hpost : ∀ x e i, postings (x.post e i) = (postings x).push (f e) i)
    (hempty : postings x.clear = ∅)
    (hbuild : postings (x.build es) = postings (x.clear.postAll (placed es 0))) :
    (postings (x.build es)).Mirrors es fun e k => f e = k := by
  rw [hbuild]
  refine mirrors_postAll postings hempty (fun log e i _ => ?_) es
  rw [hpost]
  exact Postings.push_grows _ (f e) i

theorem mirrors_byLevel_build (x : Index) (es : List Entry) :
    (x.build es).byLevel.Mirrors es fun e level => e.level.name = level :=
  mirrors_build_of_push byLevel (fun e => e.level.name) (fun _ _ _ => rfl) rfl rfl

theorem mirrors_byEnvironment_build (x : Index) (es : List Entry) :
    (x.build es).byEnvironment.Mirrors es fun e environment => e.environment.name = environment :=
  mirrors_build_of_push byEnvironment (fun e => e.environment.name) (fun _ _ _ => rfl) rfl rfl

theorem mirrors_byKind_build (x : Index) (es : List Entry) :
    (x.build es).byKind.Mirrors es fun e kind => e.kind.name = kind :=
  mirrors_build_of_push byKind (fun e => e.kind.name) (fun _ _ _ => rfl) rfl rfl

theorem mirrors_byKeyword_build (x : Index) (es : List Entry) :
    (x.build es).byKeyword.Mirrors es fun e word => word ∈ (x.keywords e).kept := by
  refine mirrors_postAll byKeyword rfl (fun log e i hnew => ?_) es
  obtain ⟨-, -, hlimit, hlength⟩ := postAll_same x.clear log
  have hkeywords : (x.clear.postAll log).keywords e = x.keywords e := by
    rw [keywords, hlimit, hlength]
    rfl
  rw [← hkeywords]
  exact Postings.foldl_pushNew_grows hnew _

/-- The postings of an index are those of the levels, environments, kinds and keywords that the
    entries have, its overflow is made of the messages with more keywords than are posted, and its
    slots are the instants of the entries in order. Every position stands under one level, one
    environment and one kind. -/
structure Mirrors (x : Index) (es : List Entry) : Prop where
  level : x.byLevel.Mirrors es fun e level => e.field? "level" = some (.text level)
  environment : x.byEnvironment.Mirrors es fun e environment =>
    e.field? "environment" = some (.text environment)
  kind : x.byKind.Mirrors es fun e kind => e.field? "kind" = some (.text kind)
  keyword : x.byKeyword.Mirrors es fun e word =>
    word.toList ∈ (eligibleWords x.minKeywordLength e.message).take x.keywordLimit
  overflow_ascending : x.overflow.toList.Pairwise (· < ·)
  mem_overflow (i : Nat) : i ∈ x.overflow ↔ ∃ e, es[i]? = some e ∧
    x.keywordLimit < (eligibleWords x.minKeywordLength e.message).length
  timestamps_ascending : x.timestamps.Pairwise Slot.Earlier
  mem_timestamps (s : Slot) : s ∈ x.timestamps ↔
    ∃ e, es[s.position]? = some e ∧ e.timestamp? = some s.timestamp
  total : x.total = es.length
  existsUnique (i : Nat) (hi : i < es.length) : (∃! level, i ∈ x.byLevel.under level) ∧
    (∃! environment, i ∈ x.byEnvironment.under environment) ∧ ∃! kind, i ∈ x.byKind.under kind

theorem mirrors_build (x : Index) (es : List Entry) : (x.build es).Mirrors es := by
  obtain ⟨-, -, hlimit, hlength⟩ : _ ∧ _ ∧ (x.build es).keywordLimit = x.keywordLimit ∧
      (x.build es).minKeywordLength = x.minKeywordLength := postAll_same x.clear (placed es 0)
  have hlevel := mirrors_byLevel_build x es
  have henvironment := mirrors_byEnvironment_build x es
  have hkind := mirrors_byKind_build x es
  have hfield : ∀ {name : String} {f : Entry → String},
      String.ofList (Text.trim name.toList) = name →
        (∀ e : Entry, e.commonField? name = some (some (.text (f e)))) →
          (fun (e : Entry) k => e.field? name = some (.text k)) = fun e k => f e = k := by
    intro name f hname hf
    funext e k
    rw [Entry.field?_of_commonField? hname (hf e), Option.some.injEq, FieldValue.text.injEq]
  constructor
  case level => rwa [hfield (by decide) fun _ => rfl]
  case environment => rwa [hfield (by decide) fun _ => rfl]
  case kind => rwa [hfield (by decide) fun _ => rfl]
  case keyword =>
    have hkept : (fun (e : Entry) word => word ∈ (x.keywords e).kept) = fun e word =>
        word.toList ∈ (eligibleWords x.minKeywordLength e.message).take x.keywordLimit := by
      funext e word
      refine propext ⟨fun h => ?_, fun h => ?_⟩
      · obtain ⟨w, hw, rfl⟩ := List.mem_map.1 h
        rwa [String.toList_ofList]
      · exact List.mem_map.2 ⟨_, h, String.ofList_toList⟩
    rw [hlimit, hlength, ← hkept]
    exact mirrors_byKeyword_build x es
  case overflow_ascending =>
    have hlist : (x.build es).overflow.toList =
        ((placed es 0).filter fun q => (x.keywords q.1).overflows).map (·.2) :=
      overflow_postAll x.clear (placed es 0)
    rw [hlist]
    exact pairwise_positions (fun e => (x.keywords e).overflows) es
  case mem_overflow =>
    intro i
    rw [mem_overflow_build, hlimit, hlength]
    simp only [keywords, Keywords.ofMessage, decide_eq_true_eq]
  case timestamps_ascending => exact pairwise_earlier_build x es
  case mem_timestamps => exact fun s => mem_timestamps_build
  case total => exact total_build x es
  case existsUnique =>
    exact fun i hi => ⟨hlevel.existsUnique hi, henvironment.existsUnique hi, hkind.existsUnique hi⟩

/-- However entries came into an index, it mirrors them. -/
theorem Follows.mirrors (h : x.Follows es) : x.Mirrors es := by
  rw [← h.build_eq]
  exact mirrors_build x es

/-- The last word of the second message is one too many, since the one before it counts twice. -/
theorem Follows.mirrors_two_entries :
    let a : Entry := .text "disk full"
    let b : Entry := .text "[WARN] failing failing disk"
    let x := ((Index.empty { keywordLimit := 3 }).build [a]).add b 1
    x.Follows [a, b] ∧ x.Mirrors [a, b] ∧ 1 ∈ x.byLevel.under "warn" ∧
      x.byLevel["fatal"]? = none ∧ 1 ∈ x.byKeyword.under "failing" ∧
      1 ∉ x.byKeyword.under "disk" ∧ 1 ∈ x.overflow ∧ x.total = 2 := by
  intro a b x
  have hx : x.Follows [a, b] := .add (.build (.empty _) [a]) b
  have h := hx.mirrors
  have hdisk : 1 ∉ x.byKeyword.under "disk" := fun hmem => by
    obtain ⟨e, he, hword⟩ := (h.keyword.mem "disk" 1).1 hmem
    obtain rfl : b = e := Option.some.inj he
    exact absurd hword (by decide +kernel)
  exact ⟨hx, h, (h.level.mem "warn" 1).2 ⟨b, rfl, by decide +kernel⟩,
    h.level.absent "fatal" (by decide +kernel),
    (h.keyword.mem "failing" 1).2 ⟨b, rfl, by decide +kernel⟩, hdisk,
    (h.mem_overflow 1).2 ⟨b, rfl, by decide +kernel⟩, h.total⟩

end Index

end Logbook
