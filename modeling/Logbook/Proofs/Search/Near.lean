import Logbook.Proofs.Search.Edits
import Logbook.Proofs.Search.Hits

/-!
# Words that differ

Where words may differ from what is looked for, a stem matches a text if a word of the text is the
stem or comes about from it by a single edit (`matchesToken_iff_edit`). That the lengths are
compared first changes nothing, for an edit changes them by one (`isNear_iff`).

Settings under which words may differ more (`Settings.NoFuzzier`) find more: from a word
(`hasNear_mono`) to the terms (`matchesTerms_mono`), what matches goes on matching. Where all terms
matched already it is worth the same, since each stem is found in the same way (`tokenWorth_congr`);
other hits can only gain points (`entryWorth_mono`, `search_mono`).
-/

namespace Logbook

variable {s s' : Settings} {t : SearchTerms} {e : Entry} {text token word : List Char}

/-! ## One edit -/

theorem editDistance_le_one_iff : editDistance word token ≤ 1 ↔ word = token ∨ Edit token word := by
  constructor
  · intro h
    have hedits := (edits_editDistance word token).symm
    rcases Nat.le_one_iff_eq_zero_or_eq_one.1 h with hzero | hone
    · exact .inl (Edits.zero_iff.1 (hzero ▸ hedits)).symm
    · exact .inr (Edits.one_iff.1 (hone ▸ hedits))
  · rintro (rfl | h)
    · exact (Edits.refl word).editDistance_le.trans (Nat.zero_le 1)
    · exact (Edits.one_iff.2 h).symm.editDistance_le

/-- The lengths of texts are at most as far apart as the texts. -/
theorem length_sub_le_editDistance (a b : List Char) :
    (a.length - b.length) + (b.length - a.length) ≤ editDistance a b := by
  have h := (edits_editDistance a b).length_le
  have h' := (edits_editDistance a b).symm.length_le
  omega

theorem isNear_iff :
    isNear s token word ↔ s.fuzzyMinLength ≤ word.length ∧ (word = token ∨ Edit token word) := by
  have hlength := length_sub_le_editDistance word token
  rw [isNear, Bool.and_eq_true, Bool.and_eq_true, decide_eq_true_eq, decide_eq_true_eq,
    decide_eq_true_eq, ← editDistance_le_one_iff]
  constructor
  · rintro ⟨⟨hmin, -⟩, hnear⟩
    exact ⟨hmin, hnear⟩
  · rintro ⟨hmin, hnear⟩
    exact ⟨⟨hmin, by omega⟩, hnear⟩

theorem hasNear_iff : hasNear s text token ↔
    s.fuzzy ∧ s.fuzzyMinLength ≤ token.length ∧
      ∃ word, Text.IsPiece isSeparator word text ∧ isNear s token word := by
  rw [hasNear, Bool.and_eq_true, Bool.and_eq_true, decide_eq_true_eq, List.any_eq_true, and_assoc]
  simp only [Text.mem_splitOnP_iff]

/-- A stem matches a text if it stands there, or if words may differ, the stem is long enough, and
    so is a word of the text that is the stem or comes about from it by a single edit. The lengths
    of such a word and the stem are always close enough. -/
theorem matchesToken_iff_edit (s : Settings) (text token : List Char) :
    (matchesToken s text token ↔ token <:+: text ∨
      s.fuzzy ∧ s.fuzzyMinLength ≤ token.length ∧
        ∃ word, Text.IsPiece isSeparator word text ∧ s.fuzzyMinLength ≤ word.length ∧
          (word = token ∨ Edit token word)) ∧
    ∀ word, word = token ∨ Edit token word →
      (word.length - token.length) + (token.length - word.length) ≤ 2 := by
  refine ⟨?_, fun word hnear => ?_⟩
  · rw [matchesToken, Bool.or_eq_true, Text.hasInfix_iff, hasNear_iff]
    simp only [isNear_iff]
  · have hle := editDistance_le_one_iff.2 hnear
    have hlength := length_sub_le_editDistance word token
    omega

/-! ## Settings under which words may differ more -/

/-- Whether words may differ under second settings wherever they may under first ones. -/
structure Settings.NoFuzzier (s s' : Settings) : Prop where
  fuzzy : s.fuzzy → s'.fuzzy
  length_le : s.fuzzy → s'.fuzzyMinLength ≤ s.fuzzyMinLength

theorem hasNear_mono (h : s.NoFuzzier s') (hnear : hasNear s text token) :
    hasNear s' text token := by
  obtain ⟨hfuzzy, htoken, word, hword, hnear⟩ := hasNear_iff.1 hnear
  obtain ⟨hlength, hedit⟩ := isNear_iff.1 hnear
  have hle := h.length_le hfuzzy
  exact hasNear_iff.2 ⟨h.fuzzy hfuzzy, hle.trans htoken, word, hword,
    isNear_iff.2 ⟨hle.trans hlength, hedit⟩⟩

theorem matchesToken_mono (h : s.NoFuzzier s') (hmatch : matchesToken s text token) :
    matchesToken s' text token := by
  rw [matchesToken, Bool.or_eq_true] at hmatch ⊢
  exact hmatch.imp_right (hasNear_mono h)

theorem matchesTerms_mono (h : s.NoFuzzier s') (hmatch : matchesTerms s text t) :
    matchesTerms s' text t := by
  rw [matchesTerms, Bool.and_eq_true, List.all_eq_true, List.all_eq_true] at hmatch ⊢
  exact ⟨hmatch.1, fun token htoken => matchesToken_mono h (hmatch.2 token htoken)⟩

/-- What matches is worth the same under both settings. -/
theorem tokenWorth_congr (h : s.NoFuzzier s') (hne : token ≠ [])
    (hmatch : matchesToken s text token) :
    tokenWorth s' text token = tokenWorth s text token := by
  rw [tokenWorth, tokenWorth]
  split
  next hnone =>
    have hnear := hasNear_of_matchesToken hne hmatch (List.isEmpty_iff.1 hnone)
    rw [if_pos hnear, if_pos (hasNear_mono h hnear)]
  next => rfl

theorem textWorth_congr (h : s.NoFuzzier s') (htokens : ∀ token ∈ t.tokens, token ≠ [])
    (hmatch : matchesTerms s text t) : textWorth s' text t = textWorth s text t := by
  rw [matchesTerms, Bool.and_eq_true, List.all_eq_true, List.all_eq_true] at hmatch
  have hworth : t.tokens.map (tokenWorth s' text) = t.tokens.map (tokenWorth s text) :=
    List.map_congr_left fun token htoken =>
      tokenWorth_congr h (htokens token htoken) (hmatch.2 token htoken)
  rw [textWorth, textWorth, hworth]

theorem entryWorth_congr (h : s.NoFuzzier s') (htokens : ∀ token ∈ t.tokens, token ≠ [])
    (hmatch : matchesTerms s e.searchText t) : entryWorth s' t e = entryWorth s t e := by
  rw [entryWorth, entryWorth, hmatch, matchesTerms_mono h hmatch, textWorth_congr h htokens hmatch]

/-- An entry is worth at least as much under the second settings. -/
theorem entryWorth_mono (h : s.NoFuzzier s') (htokens : ∀ token ∈ t.tokens, token ≠ []) :
    entryWorth s t e ≤ entryWorth s' t e := by
  by_cases hmatch : matchesTerms s e.searchText t
  · rw [entryWorth_congr h htokens hmatch]
  · -- It is worth something for what could not be told only, and its text can only add to that.
    rw [entryWorth, entryWorth, Bool.eq_false_iff.2 hmatch, Bool.and_false,
      if_neg Bool.false_ne_true]
    exact Nat.add_le_add_right (Nat.zero_le _) _

/-- What is asked for under the first settings is under the second ones. -/
theorem SearchTerms.AskFor.mono (h : s.NoFuzzier s') (hask : t.AskFor s e) : t.AskFor s' e :=
  hask.imp_right fun ⟨hterms, hmatch⟩ => ⟨hterms, matchesTerms_mono h hmatch⟩

theorem exists_points?_mono (h : s.NoFuzzier s') {points : UInt32}
    (hpoints : points? s t e = some points) : ∃ points', points? s' t e = some points' := by
  rw [points?] at hpoints ⊢
  by_cases hempty : t.isEmpty
  · exact ⟨0, if_pos hempty⟩
  · rw [if_neg hempty] at hpoints ⊢
    exact exists_score?_iff.2 ((exists_score?_iff.1 ⟨points, hpoints⟩).mono h)

/-- Under settings under which words may differ more, every hit stays one. The entry is worth at
    least as much; and if that fits in 32 bits, the hit has at least as many points, and just as
    many if its text matched without that. -/
theorem search_mono (h : s.NoFuzzier s') (entries : Array Entry) (query : String) :
    ∀ hit ∈ search s entries query,
      ∃ hit' ∈ search s' entries query, hit'.position = hit.position ∧
        ∀ e, entries[hit.position]? = some e →
          entryWorth s (.ofText query) e ≤ entryWorth s' (.ofText query) e ∧
          (entryWorth s' (.ofText query) e < 2 ^ 32 → hit.score ≤ hit'.score ∧
            (matchesTerms s e.searchText (.ofText query) → hit'.score = hit.score)) := by
  intro hit hhit
  obtain ⟨e, he, hpoints⟩ := mem_search.1 hhit
  obtain ⟨points, hpoints'⟩ := exists_points?_mono h hpoints
  refine ⟨⟨hit.position, points⟩, mem_search.2 ⟨e, he, hpoints'⟩, rfl, fun e' he' => ?_⟩
  obtain rfl := Option.some.inj (he.symm.trans he')
  have htokens : ∀ token ∈ (SearchTerms.ofText query).tokens, token ≠ [] := fun _ =>
    SearchTerms.ne_nil_of_mem_tokens
  have hle : entryWorth s (.ofText query) e ≤ entryWorth s' (.ofText query) e :=
    entryWorth_mono h htokens
  refine ⟨hle, fun hfits => ?_⟩
  have hscore := toNat_points? (Nat.lt_of_le_of_lt hle hfits) hpoints
  have hscore' := toNat_points? hfits hpoints'
  refine ⟨?_, fun hmatch => ?_⟩
  · rwa [UInt32.le_iff_toNat_le, hscore, hscore']
  · rw [← UInt32.toNat_inj, hscore, hscore', entryWorth_congr h htokens hmatch]

/-- The first entry matches under both settings, for a long word of it differs by an edit; the
    second one is found under the first settings only because its environment is not known. -/
theorem search_mono_typos :
    let entries : Array Entry := #[.text "ERROR env=prod databse full", .text "WARN database eror"]
    let query := "database error unknown"
    let strict : Settings := { fuzzyMinLength := 6 }
    strict.NoFuzzier {} ∧
      ⟨0, 60⟩ ∈ search strict entries query ∧ ⟨0, 60⟩ ∈ search {} entries query ∧
      ⟨1, 30⟩ ∈ search strict entries query ∧
      ∃ hit ∈ search {} entries query, hit.position = 1 ∧ 30 ≤ hit.score := by
  intro entries query strict
  have h : strict.NoFuzzier {} := ⟨fun _ => rfl, by decide⟩
  have hfirst : ⟨0, 60⟩ ∈ search strict entries query := mem_search.2 ⟨_, rfl, by decide +kernel⟩
  have hsecond : ⟨1, 30⟩ ∈ search strict entries query := mem_search.2 ⟨_, rfl, by decide +kernel⟩
  obtain ⟨⟨i, points⟩, hmem, rfl, hpoints⟩ := search_mono h entries query _ hfirst
  obtain rfl : points = 60 := ((hpoints _ rfl).2 (by decide +kernel)).2 (by decide +kernel)
  obtain ⟨hit, hhit, hposition, hscore⟩ := search_mono h entries query _ hsecond
  exact ⟨h, hfirst, hmem, hsecond, hit, hhit, hposition, ((hscore _ rfl).2 (by decide +kernel)).1⟩

end Logbook
