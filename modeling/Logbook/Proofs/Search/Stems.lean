import Logbook.Proofs.Query.Places
import Logbook.Proofs.Search.Quotes

/-!
# Words found by their stems

What is looked for in a text are stems, and a stem is how a word begins (`IsStem.isPrefix`). So a
text in which all words of a query stand matches it, if the phrases stand there too, and whether or
not words may differ (`matchesTerms_of_words`): to cut off endings can only add to what is found.

The ending that a word loses is the first one of the list that it has and that leaves two characters
(`IsStem`). It is taken off by its length in bytes, and the place of the cut is between two
characters for any ending that the word has (`isValid_cut`).
-/

namespace Logbook

variable {s : Settings} {text word ending : List Char} {query : String}

/-! ## Stems -/

/-- Whether a word has an ending that leaves two characters of it. -/
def Spares (word ending : List Char) : Prop :=
  ending <:+ word ∧ 2 ≤ word.length - ending.length

/-- What a word is without the first ending of the list that it can spare. -/
inductive IsStem (word : List Char) : List Char → Prop
  | whole (h : ∀ ending ∈ endings, ¬Spares word ending) : IsStem word word
  | cut {earlier later : List (List Char)} {stem ending : List Char}
      (hlist : endings = earlier ++ ending :: later) (hword : word = stem ++ ending)
      (hspares : Spares word ending) (hfirst : ∀ other ∈ earlier, ¬Spares word other) :
      IsStem word stem

theorem canLose_iff : canLose word ending ↔ Spares word ending := by
  rw [canLose, Bool.and_eq_true, List.isSuffixOf_iff_suffix, decide_eq_true_eq, Spares]
  refine and_congr_right fun _ => ?_
  omega

theorem isStem_stem (word : List Char) : IsStem word (stem word) := by
  rw [stem]
  split
  next ending hfind =>
    obtain ⟨hlose, earlier, later, hlist, hearlier⟩ := List.find?_eq_some_iff_append.1 hfind
    have hspares := canLose_iff.1 hlose
    obtain ⟨stem, hword⟩ := hspares.1
    have htake : word.take (word.length - ending.length) = stem := by
      rw [← hword, List.length_append, Nat.add_sub_cancel, List.take_left]
    rw [htake]
    refine .cut hlist hword.symm hspares fun other hother hother' => ?_
    exact absurd (canLose_iff.2 hother') (by simpa using hearlier other hother)
  next hfind =>
    exact .whole fun ending hending hspares =>
      List.find?_eq_none.1 hfind ending hending (canLose_iff.2 hspares)

theorem IsStem.isPrefix {stem : List Char} (h : IsStem word stem) : stem <+: word := by
  cases h with
  | whole => exact List.prefix_refl word
  | cut _ hword => exact ⟨_, hword.symm⟩

/-- A cut in front of an ending stands between two characters. -/
theorem isValid_cut (h : ending <:+ word) :
    String.Pos.Raw.IsValid (String.ofList word)
      ⟨Text.byteLength word - Text.byteLength ending⟩ := by
  obtain ⟨front, rfl⟩ := h
  have hbytes : Text.byteLength front = (String.ofList front).utf8ByteSize := by
    rw [← Text.byteLength_toList, String.toList_ofList]
  rw [Text.byteLength_append, Nat.add_sub_cancel, String.ofList_append, hbytes]
  exact isValid_utf8ByteSize _ _

theorem byteLength_le_of_isSuffix (h : ending <:+ word) :
    Text.byteLength ending ≤ Text.byteLength word := by
  obtain ⟨front, rfl⟩ := h
  rw [Text.byteLength_append]
  exact Nat.le_add_left _ _

/-! ## Matching -/

/-- A text in which a word stands matches its stem. -/
theorem matchesToken_stem (h : word <:+: text) : matchesToken s text (stem word) := by
  rw [matchesToken, Bool.or_eq_true, Text.hasInfix_iff]
  exact .inl ((isStem_stem word).isPrefix.isInfix.trans h)

/-- A word is cut in front of the first ending that it can spare, between two of its characters, and
    so it is only ever cut off at its end. A text in which all phrases of a query stand, and all its
    words outside of quotes, therefore matches the query under any settings. -/
theorem matchesTerms_of_words :
    (∀ word, IsStem word (stem word)) ∧
    (∀ word, ∀ ending ∈ endings, ending <:+ word →
      Text.byteLength ending = ending.length ∧ ending.length ≤ word.length ∧
        Text.byteLength ending ≤ Text.byteLength word ∧
        String.Pos.Raw.IsValid (String.ofList word)
          ⟨Text.byteLength word - Text.byteLength ending⟩) ∧
    ∀ (s : Settings) (query : String) (text : List Char),
      (∀ phrase ∈ (SearchTerms.ofText query).phrases, phrase <:+: text) →
      (∀ word ∈ SearchTerms.words query, word ≠ SearchTerms.unknownWord → word <:+: text) →
      matchesTerms s text (SearchTerms.ofText query) := by
  have hbytes : ∀ ending ∈ endings, Text.byteLength ending = ending.length := by decide
  refine ⟨isStem_stem, fun word ending hending hsuffix => ?_,
    fun s query text hphrases hwords => ?_⟩
  · exact ⟨hbytes ending hending, hsuffix.length_le, byteLength_le_of_isSuffix hsuffix,
      isValid_cut hsuffix⟩
  · rw [matchesTerms, Bool.and_eq_true, List.all_eq_true, List.all_eq_true]
    refine ⟨fun phrase hphrase => Text.hasInfix_iff.2 (hphrases phrase hphrase),
      fun token htoken => ?_⟩
    obtain ⟨word, hword, hne, rfl⟩ := SearchTerms.mem_tokens_iff.1 htoken
    exact matchesToken_stem (hwords word hword hne)

/-- Both words lose an ending, one of them the ending that comes first in the list, and words may
    not differ. -/
theorem matchesTerms_of_words_retries :
    let query := "unknown Retries \"card declined\" passing"
    let text := "passing on: card declined after two retries".toList
    (∀ phrase ∈ (SearchTerms.ofText query).phrases, phrase <:+: text) ∧
      (∀ word ∈ SearchTerms.words query, word ≠ SearchTerms.unknownWord → word <:+: text) ∧
      (SearchTerms.ofText query).tokens = ["retr".toList, "pass".toList] ∧
      IsStem "retries".toList "retr".toList ∧
      matchesTerms { fuzzy := false } text (SearchTerms.ofText query) := by
  intro query text
  have hphrases : ∀ phrase ∈ (SearchTerms.ofText query).phrases, phrase <:+: text := by
    decide +kernel
  have hwords : ∀ word ∈ SearchTerms.words query, word ≠ SearchTerms.unknownWord →
      word <:+: text := by decide +kernel
  have hstem : stem "retries".toList = "retr".toList := by decide
  obtain ⟨hstems, -, hmatches⟩ := matchesTerms_of_words
  exact ⟨hphrases, hwords, by decide +kernel, hstem ▸ hstems "retries".toList,
    hmatches { fuzzy := false } query text hphrases hwords⟩

end Logbook
