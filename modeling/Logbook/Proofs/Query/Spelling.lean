import Logbook.Proofs.Query.Spans

/-!
# Reading what is spelled

A token is read from a text exactly if the text begins with its spelling (`Token.scan_eq_ok_iff`).
Only a slash is read in two ways: after a comma it opens a pattern, elsewhere it begins a word.

So what is read is told by the characters that it takes. Where the text goes on as before, with a
character that ends every run, or not at all (`Token.GoesOnAs`), the same token is read again
(`Token.scan_goesOn`).
-/

namespace Logbook

namespace Token

variable {afterComma : Bool} {c : Char} {cs more after after' text text' : List Char} {t : Token}
  {n : Nat}

/-! ## Literals -/

theorem Enclosed.quoted? {quote : Char} (hquote : quote ≠ '\\') {inner s : List Char}
    (h : Enclosed quote inQuotes inner s) (rest : List Char) :
    Token.quoted? quote (inner ++ quote :: rest) = some (s, inner.length + 1) := by
  induction h with
  | nil => exact (quoted?_cons hquote rest).trans (if_pos rfl)
  | escaped c _ ih =>
    rw [List.cons_append, List.cons_append, Token.quoted?, ih]
    rfl
  | plain hbackslash hdelimiter _ ih =>
    rw [List.cons_append, quoted?_cons hbackslash, if_neg hdelimiter, ih]
    rfl

theorem Enclosed.slashed? {inner s : List Char} (h : Enclosed '/' inSlashes inner s)
    (rest : List Char) :
    Token.slashed? (inner ++ '/' :: rest) = some (s, inner.length + 1) := by
  induction h with
  | nil => rfl
  | escaped c _ ih =>
    rw [List.cons_append, List.cons_append, Token.slashed?, ih]
    by_cases hc : c = '/'
    · simp [inSlashes, hc]
    · simp [inSlashes, hc]
  | plain hbackslash hdelimiter _ ih =>
    rw [List.cons_append, slashed?_cons hbackslash, if_neg hdelimiter, ih]
    rfl

/-! ## Tokens -/

/-- A text that is spelled is read, and no more than it. -/
theorem Spelled.scan (h : Spelled t text after) (htext : text = c :: more)
    (hslash : c = '/' → (afterComma ↔ ∃ source flags, t = .pattern source flags)) :
    Token.scan afterComma c (more ++ after) = .ok (t, more.length) := by
  have hplain : (∀ source flags, t ≠ .pattern source flags) → ¬(c = '/' ∧ afterComma) := by
    rintro hne ⟨hc, hcomma⟩
    obtain ⟨source, flags, ht⟩ := (hslash hc).1 hcomma
    exact hne source flags ht
  cases h with
  | @word s after hne hchars hword hafter =>
    rw [htext] at hchars
    obtain ⟨hc, hmore⟩ := List.forall_mem_cons.1 hchars
    rw [scan_word_run hc hmore hafter (hplain nofun), ← htext, String.ofList_toList, ofWord,
      if_neg hword.1, if_neg hword.2.1, if_neg hword.2.2]
  | and hafter =>
    cases htext
    exact scan_word_run (by decide) (List.all_eq_true.1 (by decide)) hafter (hplain nofun)
  | or hafter =>
    cases htext
    exact scan_word_run (by decide) (List.all_eq_true.1 (by decide)) hafter (hplain nofun)
  | not hafter =>
    cases htext
    exact scan_word_run (by decide) (List.all_eq_true.1 (by decide)) hafter (hplain nofun)
  | @operator s after hne hchars hafter =>
    rw [htext] at hchars
    obtain ⟨hc, hmore⟩ := List.forall_mem_cons.1 hchars
    rw [scan_operator_run hc hmore hafter, ← htext, String.ofList_toList]
  | «open» => cases htext; rfl
  | close => cases htext; rfl
  | comma => cases htext; rfl
  | string hquote h =>
    cases htext
    have hbackslash : c ≠ '\\' := by rcases hquote with rfl | rfl <;> decide
    exact scan_quoted hquote (h.quoted? hbackslash after)
  | @pattern inner source flags after h hflags hafter =>
    cases htext
    obtain rfl : afterComma = true := (hslash rfl).2 ⟨source, flags, rfl⟩
    exact scan_slashed (h.slashed? _) hflags hafter

/-- After a comma a slash opens a pattern. -/
theorem scan_slash (h : scan true '/' cs = .ok (t, n)) :
    ∃ source flags, t = .pattern source flags := by
  rw [scan, if_neg (by decide), if_neg (by decide), if_neg (by decide), if_neg (by decide),
    if_pos (by decide)] at h
  split at h
  next => cases h; exact ⟨_, _, rfl⟩
  next => cases h

theorem scan_eq_ok_iff (hc : ¬Text.isBlank c) :
    scan afterComma c cs = .ok (t, n) ↔
      n ≤ cs.length ∧ Spelled t (c :: cs.take n) (cs.drop n) ∧
        (c = '/' → (afterComma ↔ ∃ source flags, t = .pattern source flags)) := by
  constructor
  · intro h
    obtain ⟨hspelled, hcomma⟩ := scan_spelled hc h
    refine ⟨(scan_append h (.nil _) (.nil _)).1, hspelled, ?_⟩
    rintro rfl
    refine ⟨fun hafter => scan_slash (hafter ▸ h), ?_⟩
    rintro ⟨source, flags, rfl⟩
    exact hcomma source flags rfl
  · rintro ⟨hn, hspelled, hslash⟩
    have hscan := hspelled.scan rfl hslash
    rwa [List.take_append_drop, List.length_take_of_le hn] at hscan

/-! ## What follows -/

/-- A character of which no run is made: a blank, a quote, a parenthesis or a comma. -/
def Separates (c : Char) : Prop :=
  ¬isWordChar c ∧ ¬isOperatorChar c

theorem separates_of_isBlank (h : Text.isBlank c) : Separates c :=
  ⟨fun hword => not_isBlank_of_isWordChar hword h, fun hop => not_isBlank_of_isOperatorChar hop h⟩

theorem separates_of_isQuote (h : c = '"' ∨ c = '\'') : Separates c := by
  rcases h with rfl | rfl <;> exact ⟨by decide, by decide⟩

/-- A text goes on as another one does, with a character of which no run is made, or not at all. -/
def GoesOnAs (after' after : List Char) : Prop :=
  ∀ c ∈ after'.head?, Separates c ∨ c ∈ after.head?

theorem GoesOnAs.ends {p : Char → Bool} (h : GoesOnAs after' after)
    (hp : ∀ c, Separates c → ¬p c) (hafter : Ends p after) : Ends p after' := by
  intro c hc
  rcases h c hc with hseparates | hmem
  · exact hp c hseparates
  · exact hafter c hmem

theorem Spelled.goesOn (h : Spelled t text after) (hgoes : GoesOnAs after' after) :
    Spelled t text after' := by
  have hword : Ends isWordChar after → Ends isWordChar after' := hgoes.ends fun _ => And.left
  cases h with
  | word hne hchars hs hafter => exact .word hne hchars hs (hword hafter)
  | and hafter => exact .and (hword hafter)
  | or hafter => exact .or (hword hafter)
  | not hafter => exact .not (hword hafter)
  | operator hne hchars hafter =>
    exact .operator hne hchars (hgoes.ends (fun _ => And.right) hafter)
  | «open» => exact .open
  | close => exact .close
  | comma => exact .comma
  | string hquote h => exact .string hquote h
  | pattern h hflags hafter =>
    refine .pattern h hflags (hgoes.ends (fun c hc halpha => ?_) hafter)
    exact hc.1 (isWordChar_of_isAlpha halpha)

/-- The characters that were taken are taken again where they spell the token. -/
theorem scan_respelled (hc : ¬Text.isBlank c) (h : scan afterComma c cs = .ok (t, n))
    (hspelled : Spelled t (c :: cs.take n) after) :
    scan afterComma c (cs.take n ++ after) = .ok (t, n) := by
  obtain ⟨hn, -, hslash⟩ := (scan_eq_ok_iff hc).1 h
  have hscan := hspelled.scan rfl hslash
  rwa [List.length_take_of_le hn] at hscan

theorem scan_goesOn (hc : ¬Text.isBlank c) (h : scan afterComma c cs = .ok (t, n))
    (hgoes : GoesOnAs after (cs.drop n)) :
    scan afterComma c (cs.take n ++ after) = .ok (t, n) :=
  scan_respelled hc h ((scan_spelled hc h).1.goesOn hgoes)

end Token

end Logbook
