import Logbook.Proofs.Index.Contents
import Logbook.Proofs.Query.Answers
import Logbook.Proofs.Text.SmallLetters

/-!
# Candidates for a text

An index narrows a text down to the messages in which it may stand, or it gives no answer at all.
It gives none exactly where keywords would not do (`Index.candidates?_eq_none_iff`): the text may
be empty, reach over a blank, be shorter than a keyword, or be a part of a stopword and so stand in
messages under no keyword.

Otherwise no message with the text is left out (`Index.mem_candidates`). A text without blanks that
stands in a message stands in one of its words, and this word is a keyword, being as long as the
text at least and no stopword. It need not be one of the few that are kept of a message, but a
message that has more of them is a candidate for every text.
-/

namespace Logbook.Index

open Text

variable {es : List Entry} {needle : List Char} {positions : List Nat}

/-- When an index gives no answer. -/
theorem candidates?_eq_none_iff (x : Index) (needle : List Char) :
    x.candidates? needle = none ↔
      lower needle = [] ∨ (∃ c ∈ lower needle, isBlank c) ∨
        (lower needle).length < x.minKeywordLength ∨
        ∃ w ∈ stopwords, lower needle <:+: w.toList := by
  -- A stopword is a part of itself, so that it need not be told apart from the parts of others.
  have hself : String.ofList (lower needle) ∈ stopwords →
      ∃ w ∈ stopwords, lower needle <:+: w.toList := fun hmem =>
    ⟨_, hmem, by simp⟩
  have hindexable : ¬x.isIndexable (lower needle) ↔
      lower needle = [] ∨ (∃ c ∈ lower needle, isBlank c) ∨
        (lower needle).length < x.minKeywordLength ∨ String.ofList (lower needle) ∈ stopwords := by
    simp [isIndexable, isKeyword, lower_lower, Classical.or_iff_not_imp_left]
  have hstop : (stopwords.any fun w => hasInfix (lower needle) w.toList) ↔
      ∃ w ∈ stopwords, lower needle <:+: w.toList := by
    simp only [List.any_eq_true, hasInfix_iff]
  simp only [candidates?, ite_eq_left_iff, reduceCtorEq, imp_false, not_not, Bool.or_eq_true,
    Bool.not_eq_true', ← Bool.not_eq_true, hindexable, hstop]
  rw [or_assoc, or_assoc, or_assoc, or_iff_right_of_imp hself]

theorem pairwise_of_candidates? {x : Index} (hc : x.candidates? needle = some positions) :
    positions.Pairwise (· < ·) := by
  simp only [candidates?, Option.ite_none_left_eq_some, Option.some.injEq] at hc
  obtain ⟨-, rfl⟩ := hc
  exact Source.pairwise_ascending

/-- An index answers with the messages of which a keyword has the text as a part, and with those
    that have more keywords than are kept. -/
theorem mem_candidates_iff (x : Index) (hc : (x.build es).candidates? needle = some positions)
    {i : Nat} : i ∈ positions ↔ ∃ e, es[i]? = some e ∧
      ((∃ word ∈ (x.keywords e).kept, lower needle <:+: word.toList) ∨
        (x.keywords e).overflows) := by
  simp only [candidates?, Option.ite_none_left_eq_some, Option.some.injEq] at hc
  obtain ⟨-, rfl⟩ := hc
  rw [Source.mem_ascending, List.mem_append,
    Postings.mem_flatMap_toList fun w => hasInfix (lower needle) w.toList, Array.mem_toList_iff,
    mem_overflow_build]
  simp only [hasInfix_iff, mem_byKeyword_build, and_or_left, exists_or]
  refine or_congr_left ?_
  constructor
  · rintro ⟨word, hin, e, he, hword⟩
    exact ⟨e, he, word, hword, hin⟩
  · rintro ⟨e, he, word, hword, hin⟩
    exact ⟨word, hin, e, he, hword⟩

/-! ## Completeness -/

/-- A word with a part that is long enough and stands in no stopword is a keyword. -/
theorem isKeyword_of_infix {minLength : Nat} {word : List Char}
    (hlength : minLength ≤ needle.length) (hstop : ∀ w ∈ stopwords, ¬needle <:+: w.toList)
    (h : needle <:+: word) : isKeyword minLength word := by
  rw [isKeyword, Bool.and_eq_true, decide_eq_true_eq, Bool.not_eq_true']
  refine ⟨Nat.le_trans hlength h.length_le, Bool.eq_false_iff.2 fun hword => ?_⟩
  refine hstop (String.ofList word) (by simpa using hword) ?_
  rwa [String.toList_ofList]

/-- The words of a message are kept, unless there are too many of them. -/
theorem mem_kept_or_overflows {limit minLength : Nat} {message : String} {word : List Char}
    (h : word ∈ eligibleWords minLength message) :
    String.ofList word ∈ (Keywords.ofMessage limit minLength message).kept ∨
      (Keywords.ofMessage limit minLength message).overflows := by
  by_cases hlimit : limit < (eligibleWords minLength message).length
  · exact .inr (decide_eq_true hlimit)
  · refine .inl (List.mem_map.2 ⟨word, ?_, rfl⟩)
    rwa [List.take_of_length_le (Nat.le_of_not_lt hlimit)]

/-- Every message in which a text stands is among its candidates. -/
theorem mem_candidates (x : Index) (hc : (x.build es).candidates? needle = some positions) {i : Nat}
    {e : Entry} (he : es[i]? = some e) (h : lower needle <:+: lower e.message.toList) :
    i ∈ positions := by
  rw [mem_candidates_iff x hc]
  have hsome : (x.build es).candidates? needle ≠ none := hc ▸ Option.some_ne_none positions
  simp only [ne_eq, candidates?_eq_none_iff, not_or, not_exists, not_and, Nat.not_lt,
    minKeywordLength_build] at hsome
  obtain ⟨hne, hblank, hlength, hstop⟩ := hsome
  -- The word in which the text stands is no stopword, for the text stands in none of them.
  obtain ⟨word, hword, hin⟩ := exists_word_of_infix hne hblank h
  have heligible : word ∈ eligibleWords x.minKeywordLength e.message :=
    List.mem_filter.2 ⟨hword, isKeyword_of_infix hlength hstop hin⟩
  refine ⟨e, he, (mem_kept_or_overflows heligible).imp_left fun hkept => ?_⟩
  exact ⟨String.ofList word, hkept, by rwa [String.toList_ofList]⟩

/-- An index that follows entries gives no answer for a text, or positions of them in ascending
    order, with those of all messages in which the text stands. -/
theorem Follows.candidates?_complete {x : Index} (h : x.Follows es) (needle : List Char) :
    let text := lower needle
    (x.candidates? needle = none ↔
      text = [] ∨ (∃ c ∈ text, isBlank c) ∨ text.length < x.minKeywordLength ∨
        ∃ w ∈ stopwords, text <:+: w.toList) ∧
    ∀ positions, x.candidates? needle = some positions →
      positions.Pairwise (· < ·) ∧ (∀ i ∈ positions, i < es.length) ∧
        ∀ i e, es[i]? = some e → text <:+: lower e.message.toList → i ∈ positions := by
  intro text
  refine ⟨x.candidates?_eq_none_iff needle, fun positions hc => ?_⟩
  refine ⟨pairwise_of_candidates? hc, ?_⟩
  rw [← h.build_eq] at hc
  refine ⟨fun i hi => ?_, fun i e he hin => mem_candidates x hc he hin⟩
  obtain ⟨e, he, -⟩ := (mem_candidates_iff x hc).1 hi
  exact (List.getElem?_eq_some_iff.1 he).1

/-- Only one keyword of a message is kept here, and the text is a part of a later one. -/
theorem Follows.candidates?_complete_overflow :
    let settings : Settings := { keywordLimit := 1 }
    let a : Entry := .text "Connection reset by PEER"
    let b : Entry := .text "peers"
    let x := ((empty settings).build [a]).add b 1
    x.Follows [a, b] ∧ x.candidates? "Peer".toList = some [0, 1] ∧
      x.byKeyword.under "peer" = #[] ∧ x.candidates? "he".toList = none := by
  intro settings a b x
  have hx : x.Follows [a, b] := .add (.build (empty settings) [a]) b
  have hpeer : x.candidates? "Peer".toList = some [0, 1] := by decide +kernel
  have hhe := (candidates?_complete hx "he".toList).1.2
    (.inr (.inr (.inr ⟨"the", by decide, by decide +kernel⟩)))
  exact ⟨hx, hpeer, by decide +kernel, hhe⟩

end Logbook.Index
