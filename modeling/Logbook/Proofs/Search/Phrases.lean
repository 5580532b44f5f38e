import Logbook.Proofs.Query.Signs
import Logbook.Proofs.Search.Quotes
import Logbook.Proofs.Store.Growth
import Logbook.Proofs.Text.Lowering
import Logbook.Proofs.Text.Trimming

/-!
# A text between quotes

A text without quotes, put between two of them, shows no sign of a query, even where a backslash at
its end leaves it unclosed: it is one token or none (`Token.kinds_phrase`), and so free text
(`Outcome.ofText_phrase`). Its terms are one phrase, the text in small letters without the blanks
around it (`SearchTerms.ofText_phrase`).

A message stands at the front of the text of its entry that is searched. Small letters depend on
what stands around a character, but not across the blank behind the message
(`Entry.lower_message_isPrefix`). So what is contained in a message is found as a phrase
(`Store.run_phrase`), even with blanks around it that a phrase does not have.
-/

namespace Logbook

variable {p : String}

/-! ## Free text -/

namespace Token

variable {c : Char} {cs : List Char}

/-- A quote that stands at the end only closes there, if it does at all. -/
theorem drop_of_quoted? {quote : Char} (hquote : quote ∉ cs) {s : List Char} {n : Nat}
    (h : quoted? quote (cs ++ [quote]) = some (s, n)) : (cs ++ [quote]).drop n = [] := by
  obtain ⟨inner, htake, -⟩ := quoted?_enclosed h
  refine List.drop_eq_nil_of_le ?_
  by_contra hlt
  rw [List.length_append, List.length_singleton, Nat.not_le, Nat.lt_succ_iff] at hlt
  rw [List.take_append_of_le_length hlt] at htake
  exact hquote (List.mem_of_mem_take (htake ▸ List.mem_append_right inner (by simp)))

theorem scan_quote (afterComma : Bool) (cs : List Char) :
    scan afterComma '"' cs = (quoted? '"' cs).elim (.error .string)
      fun r => .ok (.string (String.ofList r.1), r.2) := by
  rw [scan, if_neg (by decide), if_neg (by decide), if_neg (by decide), if_pos (.inl rfl)]
  cases quoted? '"' cs <;> rfl

/-- A text between quotes is one token or none. -/
theorem kinds_phrase (hquote : '"' ∉ p.toList) :
    ∀ t ∈ kinds (ofText ("\"" ++ p ++ "\"")).list, ∃ s, t = .string s := by
  have htext : ("\"" ++ p ++ "\"").toList = '"' :: (p.toList ++ ['"']) := by simp
  rw [ofText, htext, scanFrom, if_neg (by decide), scan_quote]
  cases h : quoted? '"' (p.toList ++ ['"']) with
  | none => exact fun t ht => absurd ht List.not_mem_nil
  | some r =>
    dsimp only [Option.elim]
    rw [drop_of_quoted? hquote h, scanFrom]
    intro t ht
    exact ⟨_, List.mem_singleton.1 ht⟩

end Token

namespace Outcome

theorem not_showsSign_of_strings {ts : List Token} (h : ∀ t ∈ ts, ∃ s, t = .string s)
    (before : Option Token) : ¬showsSign before ts := by
  induction ts generalizing before with
  | nil => exact Bool.false_ne_true
  | cons t ts ih =>
    obtain ⟨⟨s, rfl⟩, hts⟩ := List.forall_mem_cons.1 h
    rw [showsSign, Bool.or_eq_true, not_or]
    exact ⟨Bool.false_ne_true, ih hts _⟩

/-- Texts between quotes show no sign of a query, whatever they hold. -/
theorem ofText_phrase (hquote : '"' ∉ p.toList) : ofText ("\"" ++ p ++ "\"") = .freeText :=
  ofText_of_not_showsSign (not_showsSign_of_strings (Token.kinds_phrase hquote) none)

end Outcome

/-! ## Terms -/

namespace Text

/-- Nothing but a blank is written as blanks. -/
theorem isBlank_of_lowerAfter {cs before : List Char}
    (h : ∀ d ∈ lowerAfter before cs, isBlank d) : ∀ c ∈ cs, isBlank c := by
  induction cs generalizing before with
  | nil => nofun
  | cons c cs ih =>
    rw [lowerAfter] at h
    split at h
    next =>
      have hsigma := isSeparator_of_isBlank (h _ List.mem_cons_self)
      exact absurd rfl (lowerSigma_ne hsigma before cs)
    next =>
      obtain ⟨d, hd⟩ := List.exists_mem_of_ne_nil _ (lowerChar_ne_nil c)
      have hblank := h d (List.mem_append_left _ hd)
      obtain rfl := eq_of_mem_lowerChar (isSeparator_of_isBlank hblank) hd
      exact List.forall_mem_cons.2 ⟨hblank, ih fun d hd => h d (List.mem_append_right _ hd)⟩

theorem isBlankText_of_lower {cs : List Char} (h : isBlankText (lower cs)) : isBlankText cs :=
  List.all_eq_true.2 (isBlank_of_lowerAfter (List.all_eq_true.1 h))

theorem trim_ne_nil {cs : List Char} (h : ¬isBlankText cs) : trim cs ≠ [] := by
  intro hnil
  refine h (List.all_eq_true.2 fun c hc => ?_)
  by_contra hblank
  exact List.not_mem_nil (hnil ▸ mem_trim_of_not_isBlank hblank hc)

end Text

namespace SearchTerms

theorem pieces_phrase (hquote : '"' ∉ p.toList) :
    pieces ("\"" ++ p ++ "\"") = [[], Text.lower p.toList, []] := by
  have htext : ("\"" ++ p ++ "\"").toList = [] ++ '"' :: (p.toList ++ '"' :: []) := by simp
  have hlower : '"' ∉ Text.lower p.toList := mt (Text.mem_of_mem_lower (by decide)) hquote
  rw [pieces, htext, Text.lower_append_cons (Text.isBarrier (.inr rfl)),
    Text.lower_append_cons (Text.isBarrier (.inr rfl))]
  exact (List.splitOn_append_cons_self_of_not_mem List.not_mem_nil _).trans
    (congrArg ([] :: ·) (List.splitOn_append_cons_self_of_not_mem hlower _))

/-- A text between quotes asks for one phrase. -/
theorem ofText_phrase (hquote : '"' ∉ p.toList) (hblank : ¬Text.isBlankText p.toList) :
    ofText ("\"" ++ p ++ "\"") = .onlyPhrase (Text.trim (Text.lower p.toList)) := by
  have hne : Text.trim (Text.lower p.toList) ≠ [] :=
    Text.trim_ne_nil (mt Text.isBlankText_of_lower hblank)
  have hinside : insideQuotes (pieces ("\"" ++ p ++ "\"")) = [Text.lower p.toList] := by
    rw [pieces_phrase hquote, insideQuotes_cons]
    rfl
  have hwords : words ("\"" ++ p ++ "\"") = [] := by
    rw [words, pieces_phrase hquote, outsideQuotes_cons]
    rfl
  rw [ofText_eq, hinside, stems, hwords, onlyPhrase, List.map_singleton,
    List.filter_cons_of_pos (by simpa using hne)]
  rfl

end SearchTerms

/-! ## Search texts -/

/-- Behind the message, a blank stands in the text that is searched, and after it more. -/
theorem Entry.lower_message_isPrefix (e : Entry) :
    Text.lower e.message.toList <+: e.searchText := by
  have hname : e.kind.name.toList.any (! Text.isBlank ·) := by
    cases e.kind <;> decide
  obtain ⟨c, hc, hblank⟩ := List.any_eq_true.1 hname
  have hblank : ¬Text.isBlank c := by simpa using hblank
  rw [searchText]
  simp only [List.cons_append, List.flatMap_cons, List.append_assoc, List.nil_append]
  generalize ' ' :: (e.level.name.toList ++ _) = rest
  have hsplit : e.message.toList ++ ' ' :: (e.kind.name.toList ++ rest) =
      (e.message.toList ++ [' ']) ++ (e.kind.name.toList ++ rest) := by simp
  -- The name of the kind stays where blanks are taken away from the end.
  rw [hsplit, Text.stripEnd_append_of_mem hblank (List.mem_append_left rest hc), List.append_assoc,
    List.singleton_append, Text.lower_append_cons (Text.isBarrier (.inl (by decide)))]
  exact List.prefix_append _ _

/-- A phrase alone brings its points wherever it stands. -/
theorem points?_onlyPhrase (s : Settings) (phrase : List Char) (e : Entry) :
    points? s (.onlyPhrase phrase) e =
      if Text.hasInfix phrase e.searchText then some phrasePoints else none := by
  have hmatch : matchesTerms s e.searchText (.onlyPhrase phrase) =
      Text.hasInfix phrase e.searchText := by
    simp [matchesTerms, SearchTerms.onlyPhrase]
  have hterms : (SearchTerms.onlyPhrase phrase).hasTerms := rfl
  have hunknown : (SearchTerms.onlyPhrase phrase).unknown = false := rfl
  have hasked : ¬(SearchTerms.onlyPhrase phrase).isEmpty := Bool.false_ne_true
  rw [points?, if_neg hasked, score?, hmatch, hterms, hunknown, relevance_onlyPhrase,
    phrasePointsIn]
  cases Text.hasInfix phrase e.searchText <;> rfl

/-! ## Stores -/

namespace Store

/-- Whatever was done with a store that was empty at first: a text without quotes and not blank, put
    between quotes, is free text, and finds every entry in whose message the text stands. Every
    entry that it finds has the points of one phrase. -/
theorem run_phrase (settings : Settings) (commands : List Command) {p : String}
    (hquote : '"' ∉ p.toList) (hblank : ¬Text.isBlankText p.toList) :
    let s := (empty settings).after commands
    ∃ hits, s.run ("\"" ++ p ++ "\"") = .freeText hits ∧ (∀ hit ∈ hits, hit.score = 100) ∧
      ∀ i ∈ (s.source.answer (.call .contains "message" (.text p))).positions, ⟨i, 100⟩ ∈ hits := by
  intro s
  have hs : s.Consistent := (consistent_empty settings).after commands
  have hterms := SearchTerms.ofText_phrase hquote hblank
  refine ⟨_, run_of_freeText (Outcome.ofText_phrase hquote), fun hit hhit => ?_, fun i hi => ?_⟩
  · obtain ⟨e, -, he⟩ := mem_search.1 hhit
    rw [hterms, points?_onlyPhrase] at he
    obtain ⟨-, he⟩ := Option.ite_none_right_eq_some.1 he
    exact (Option.some.inj he).symm
  · obtain ⟨e, he, value, hvalue, hin⟩ := (hs.upToDate.mem_answer _).1 hi
    rw [Entry.field?_of_commonField? (by decide) rfl] at hvalue
    obtain rfl := Option.some.inj hvalue
    have hinfix : Text.trim (Text.lower p.toList) <:+: e.searchText :=
      ((Text.trim_infix _).trans hin).trans e.lower_message_isPrefix.isInfix
    refine mem_search.2 ⟨e, he, ?_⟩
    rw [hterms, points?_onlyPhrase, if_pos (Text.hasInfix_iff.2 hinfix)]
    rfl

/-- What stands between the quotes looks like a query, and ends in a backslash. -/
theorem run_phrase_like_query :
    let p := " (level=WARN \\"
    let a : Entry := .text "read (Level=warn \\ of 3)"
    let b : Entry := .text "level=warn"
    let s := (empty {}).after [.push a, .push b]
    '"' ∉ p.toList ∧ ¬Text.isBlankText p.toList ∧
      (s.source.answer (.call .contains "message" (.text p))).positions = [0] ∧
      ∃ hits, s.run "\" (level=WARN \\\"" = .freeText hits ∧ ⟨0, 100⟩ ∈ hits := by
  intro p a b s
  have hquote : '"' ∉ p.toList := by decide
  have hblank : ¬Text.isBlankText p.toList := by decide
  have hfound : (s.source.answer (.call .contains "message" (.text p))).positions = [0] := by
    decide +kernel
  obtain ⟨hits, hrun, -, hhits⟩ := run_phrase {} [.push a, .push b] hquote hblank
  exact ⟨hquote, hblank, hfound, hits, hrun, hhits 0 (hfound ▸ List.mem_singleton_self 0)⟩

end Store

end Logbook
