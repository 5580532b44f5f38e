import Logbook.Proofs.Query.Cutting
import Logbook.Query.Outcome

/-!
# Signs of queries

Whether tokens show a sign of a query is found out by looking at a few neighbouring tokens, and
before they are read. Of tokens that the grammar derives, the signs can be told by the conditions
that they write (`Query.Derives.showsSign_iff`): a call is a sign, and so is a comparison of a field
that begins like a name, for a condition always begins a clause.

So a text that can be read is taken for the query that it is, unless all of its conditions are
comparisons of fields that begin like numbers.
-/

namespace Logbook

namespace Query

variable {q r : Query} {terms : List Query}

/-! ## Leaves -/

mutual

/-- The conditions of a query. -/
def leaves : Query → List Query
  | .and terms => leavesOf terms
  | .or terms => leavesOf terms
  | .not q => leaves q
  | .compare field op v => [.compare field op v]
  | .call function field a => [.call function field a]

/-- The conditions of the terms of a chain. -/
def leavesOf : List Query → List Query
  | [] => []
  | q :: qs => leaves q ++ leavesOf qs

end

theorem leavesOf_eq_flatMap : leavesOf terms = terms.flatMap leaves := by
  induction terms with
  | nil => rfl
  | cons q qs ih => rw [leavesOf, ih, List.flatMap_cons]

@[simp] theorem leaves_and : (Query.and terms).leaves = terms.flatMap leaves := by
  rw [leaves, leavesOf_eq_flatMap]

@[simp] theorem leaves_or : (Query.or terms).leaves = terms.flatMap leaves := by
  rw [leaves, leavesOf_eq_flatMap]

@[simp] theorem leaves_not : q.not.leaves = q.leaves := by
  rw [leaves]

@[simp] theorem leaves_conj : (q.conj r).leaves = q.leaves ++ r.leaves := by
  cases q <;> simp [conj]

@[simp] theorem leaves_disj : (q.disj r).leaves = q.leaves ++ r.leaves := by
  cases q <;> simp [disj]

theorem mem_leaves_joined {join : Query → Query → Query}
    (hjoin : ∀ q r, (join q r).leaves = q.leaves ++ r.leaves) {links : List (List Token × Query)}
    {leaf : Query} : leaf ∈ (joined join q links).leaves ↔
      leaf ∈ q.leaves ∨ ∃ link ∈ links, leaf ∈ link.2.leaves := by
  induction links generalizing q with
  | nil => simp [joined]
  | cons link links ih =>
    simp only [List.mem_cons, exists_eq_or_imp]
    rw [← or_assoc, ← List.mem_append, ← hjoin]
    exact ih

/-- Whether a condition is one that shows that a query is meant: a call, or a comparison of a field
    that begins with a letter or a sign that names begin with. -/
def IsMarked : Query → Prop
  | .call _ _ _ => True
  | .compare field _ _ => ∃ c ∈ field.toList.head?, c.isAlpha ∨ c = '_' ∨ c = '@' ∨ c = '$'
  | _ => False

instance : DecidablePred IsMarked
  | .call _ _ _ => inferInstanceAs (Decidable True)
  | .compare field _ _ =>
    decidable_of_iff (field.toList.head?.any fun c => c.isAlpha ∨ c = '_' ∨ c = '@' ∨ c = '$')
      (by simp [IsMarked, Option.any_eq_true])
  | .and _ | .or _ | .not _ => inferInstanceAs (Decidable False)

/-- Whether a query has such a condition. -/
def HasMark (q : Query) : Prop :=
  ∃ leaf ∈ q.leaves, leaf.IsMarked

theorem hasMark_joined {join : Query → Query → Query}
    (hjoin : ∀ q r, (join q r).leaves = q.leaves ++ r.leaves)
    {links : List (List Token × Query)} :
    (joined join q links).HasMark ↔ q.HasMark ∨ ∃ link ∈ links, link.2.HasMark := by
  simp only [HasMark, mem_leaves_joined hjoin, or_and_right, exists_or]
  refine or_congr_right ⟨?_, ?_⟩
  · rintro ⟨leaf, ⟨link, hlink, hleaf⟩, hmark⟩
    exact ⟨link, hlink, leaf, hleaf, hmark⟩
  · rintro ⟨link, hlink, leaf, hleaf, hmark⟩
    exact ⟨leaf, ⟨link, hlink, hleaf⟩, hmark⟩

end Query

variable {q : Query} {w : List Token}

theorem IsCondition.leaves_eq (h : IsCondition w q) : q.leaves = [q] := by
  cases h <;> rw [Query.leaves]

theorem IsCondition.hasMark_iff (h : IsCondition w q) : q.HasMark ↔ q.IsMarked := by
  simp [Query.HasMark, h.leaves_eq]

/-! ## Fields -/

theorem IsFieldName.mem {name : String} (h : IsFieldName name) {c : Char} (hc : c ∈ name.toList) :
    Query.isFieldChar c ∨ c = '.' := by
  obtain ⟨steps, -, hsteps, hname⟩ := h
  rw [hname] at hc
  rcases Text.mem_intercalate hc with hc | ⟨step, hstep, hc⟩
  · exact .inr hc
  · exact .inl ((hsteps step hstep).2 c hc)

theorem IsFieldName.exists_cons {name : String} (h : IsFieldName name) :
    ∃ c cs, name.toList = c :: cs ∧ Query.isFieldChar c := by
  obtain ⟨steps, hne, hsteps, hname⟩ := h
  obtain ⟨step, rest, rfl⟩ := List.exists_cons_of_ne_nil hne
  obtain ⟨hstep, hchars⟩ := hsteps step List.mem_cons_self
  obtain ⟨c, cs, rfl⟩ := List.exists_cons_of_ne_nil hstep
  have hc : Query.isFieldChar c := hchars c List.mem_cons_self
  cases rest with
  | nil => exact ⟨c, cs, by simpa using hname, hc⟩
  | cons next rest =>
    rw [List.intercalate_cons_cons] at hname
    exact ⟨c, _, hname, hc⟩

/-- Of a field's name only the first character is left to look at. -/
theorem IsFieldName.isFieldLike_iff {name : String} (h : IsFieldName name) {op : CompareOp}
    {v : Literal} : Outcome.isFieldLike name ↔ (Query.compare name op v).IsMarked := by
  obtain ⟨c, cs, hname, -⟩ := h.exists_cons
  have hall : (c :: cs).all fun c => Query.isFieldChar c || c = '.' := by
    rw [List.all_eq_true]
    intro d hd
    simpa using h.mem (hname ▸ hd)
  simp [Outcome.isFieldLike, Query.IsMarked, hname, List.all_cons ▸ hall, or_assoc]

/-- A condition that is not marked compares a field that begins like a number. -/
theorem IsCondition.exists_compare (h : IsCondition w q) (hmark : ¬q.IsMarked) :
    ∃ field op v c cs,
      q = .compare field op v ∧ field.toList = c :: cs ∧ (c.isDigit ∨ c = '-') := by
  cases h with
  | call hf ha => exact absurd trivial hmark
  | comparison hf op hv =>
    obtain ⟨c, cs, hname, hc⟩ := hf.exists_cons
    refine ⟨_, op, _, c, cs, rfl, hname, ?_⟩
    simp only [Query.IsMarked, hname, List.head?_cons, Option.mem_some_iff, exists_eq_left',
      not_or] at hmark
    obtain ⟨halpha, hunderscore, hat, hdollar⟩ := hmark
    simpa only [Query.isFieldChar, Char.isAlphanum, Bool.or_eq_true, decide_eq_true_eq, halpha,
      hunderscore, hat, hdollar, Bool.false_eq_true, false_or, or_false] using hc

/-! ## Signs of derived tokens -/

namespace Query

variable {before : Option Token} {t : Token} {ts rest : List Token}

/-- What follows a phrase: its end, a connective or a closing parenthesis. -/
def Closes (rest : List Token) : Prop :=
  ∀ t ∈ rest.head?, t = .and ∨ t = .or ∨ t = .close

theorem Closes.nil : Closes [] :=
  fun t ht => absurd ht (Option.not_mem_none t)

theorem Closes.cons (h : t = .and ∨ t = .or ∨ t = .close) : Closes (t :: rest) := by
  rintro _ ⟨⟩
  exact h

/-- No sign begins with anything but a word. -/
theorem showsSign_cons (ht : ∀ s, t ≠ .word s) :
    Outcome.showsSign before (t :: ts) = Outcome.showsSign (some t) ts := by
  cases t with
  | word s => exact absurd rfl (ht s)
  | _ => rfl

/-- What stands in front of the end of a phrase makes no difference to what follows. -/
theorem Closes.showsSign_eq (h : Closes rest) (before before' : Option Token) :
    Outcome.showsSign before rest = Outcome.showsSign before' rest := by
  cases rest with
  | nil => rfl
  | cons t ts =>
    rcases h t rfl with rfl | rfl | rfl <;> rfl

/-- No sign begins with the last word of a phrase. -/
theorem Closes.showsSign_word (h : Closes rest) (before : Option Token) (s : String) :
    Outcome.showsSign before (.word s :: rest) = Outcome.showsSign none rest := by
  rw [← h.showsSign_eq (some (.word s)) none]
  cases rest with
  | nil => rfl
  | cons t ts =>
    rcases h t rfl with rfl | rfl | rfl <;> rfl

end Query

/-- A condition shows a sign at its beginning if at all. -/
theorem IsCondition.showsSign_iff (h : IsCondition w q) {before : Option Token}
    (hbefore : Outcome.opensClause before) {rest : List Token} (hrest : Query.Closes rest) :
    Outcome.showsSign before (w ++ rest) ↔ q.IsMarked ∨ Outcome.showsSign none rest := by
  cases h with
  | @comparison field t v hf op hv =>
    have htail : Outcome.showsSign (some (.word field)) (.operator op.symbol :: t :: rest) =
        Outcome.showsSign none rest := by
      rw [Query.showsSign_cons (t := .operator _) fun _ => nofun]
      cases hv with
      | string s =>
        rw [Query.showsSign_cons (t := .string s) (fun _ => nofun), hrest.showsSign_eq _ none]
      | word s => exact hrest.showsSign_word _ s
    have hvalue : Outcome.hasValue op.symbol (t :: rest) := by
      cases hv <;> rfl
    simp only [List.cons_append, List.nil_append]
    rw [Outcome.showsSign, htail, Bool.or_eq_true, Outcome.signAt, hbefore, hvalue,
      Bool.true_and, Bool.and_true, hf.isFieldLike_iff]
  | @call field function t a hf ha =>
    have hsign : Outcome.signAt before
        (.word function.name :: .open :: .word field :: .comma :: t :: .close :: rest) := by
      rw [Outcome.signAt, TextFunction.ofName?_eq_some_iff.2 rfl]
      rfl
    simp only [List.cons_append, List.nil_append]
    rw [Outcome.showsSign, hsign]
    simp [Query.IsMarked]

namespace Query

variable {before : Option Token} {rest : List Token} {connective : Token}
  {links : List (List Token × Query)}

/-- Links show the signs that they show one by one, if the connective opens a clause. -/
theorem showsSign_linked (hopens : Outcome.opensClause (some connective))
    (hcloses : connective = .and ∨ connective = .or ∨ connective = .close)
    (ih : ∀ link ∈ links, ∀ {before}, Outcome.opensClause before → ∀ {rest}, Closes rest →
      (Outcome.showsSign before (link.1 ++ rest) ↔
        link.2.HasMark ∨ Outcome.showsSign none rest)) (hrest : Closes rest) :
    Closes (linked connective links ++ rest) ∧
    (Outcome.showsSign none (linked connective links ++ rest) ↔
      (∃ link ∈ links, link.2.HasMark) ∨ Outcome.showsSign none rest) := by
  have hword : ∀ s, connective ≠ .word s := by
    rintro s rfl
    rcases hcloses with h | h | h <;> cases h
  induction links with
  | nil => exact ⟨hrest, by simp [linked]⟩
  | cons link links ihLinks =>
    obtain ⟨hlink, hlinks⟩ := List.forall_mem_cons.1 ih
    obtain ⟨hfollow, hsigns⟩ := ihLinks hlinks
    rw [linked_cons, List.cons_append, List.append_assoc]
    refine ⟨.cons hcloses, ?_⟩
    rw [showsSign_cons hword, hlink hopens hfollow, hsigns]
    simp only [List.mem_cons, exists_eq_or_imp, or_assoc]

/-- Derived tokens show a sign exactly if one of the conditions is one. -/
theorem Derives.showsSign_iff {phrase : Phrase} {d : Nat} {w : List Token} {q : Query}
    (h : Derives phrase d w q) {before : Option Token} (hbefore : Outcome.opensClause before)
    {rest : List Token} (hrest : Closes rest) :
    Outcome.showsSign before (w ++ rest) ↔ q.HasMark ∨ Outcome.showsSign none rest := by
  induction h generalizing before rest with
  | or _ _ ih ihs =>
    obtain ⟨hfollow, hsigns⟩ := showsSign_linked rfl (.inr (.inl rfl)) ihs hrest
    rw [List.append_assoc, ih hbefore hfollow, hsigns, hasMark_joined (fun _ _ => leaves_disj),
      or_assoc]
  | and _ _ ih ihs =>
    obtain ⟨hfollow, hsigns⟩ := showsSign_linked rfl (.inl rfl) ihs hrest
    rw [List.append_assoc, ih hbefore hfollow, hsigns, hasMark_joined (fun _ _ => leaves_conj),
      or_assoc]
  | not _ _ ih =>
    rw [List.cons_append, showsSign_cons (t := .not) (fun _ => nofun), ih rfl hrest, HasMark,
      HasMark, leaves_not]
  | primary _ ih => exact ih hbefore hrest
  | group _ _ ih =>
    have hclose : Closes (.close :: rest) := .cons (.inr (.inr rfl))
    rw [List.cons_append, List.cons_append, List.append_assoc, List.singleton_append,
      showsSign_cons (t := .open) (fun _ => nofun), ih rfl hclose,
      showsSign_cons (t := .close) (fun _ => nofun), hrest.showsSign_eq _ none]
  | condition h => rw [h.showsSign_iff hbefore hrest, h.hasMark_iff]

theorem Derives.isCondition_of_mem_leaves {phrase : Phrase} {d : Nat} {w : List Token} {q : Query}
    (h : Derives phrase d w q) : ∀ leaf ∈ q.leaves, ∃ v, IsCondition v leaf := by
  induction h with
  | or _ _ ih ihs =>
    intro leaf hleaf
    rcases (mem_leaves_joined fun _ _ => leaves_disj).1 hleaf with hleaf | ⟨link, hlink, hleaf⟩
    · exact ih leaf hleaf
    · exact ihs link hlink leaf hleaf
  | and _ _ ih ihs =>
    intro leaf hleaf
    rcases (mem_leaves_joined fun _ _ => leaves_conj).1 hleaf with hleaf | ⟨link, hlink, hleaf⟩
    · exact ih leaf hleaf
    · exact ihs link hlink leaf hleaf
  | not _ _ ih => exact leaves_not ▸ ih
  | primary _ ih => exact ih
  | group _ _ ih => exact ih
  | condition h =>
    rintro leaf hleaf
    rw [h.leaves_eq, List.mem_singleton] at hleaf
    exact ⟨_, hleaf ▸ h⟩

end Query

/-! ## Texts -/

namespace Outcome

variable {s : String} {ts : List Token}

theorem ofText_of_not_showsSign (h : ¬showsSign none (kinds (Token.ofText s).list)) :
    ofText s = .freeText := by
  rw [ofText]
  split
  · rfl
  · exact if_neg h

/-- What a text is, told by its tokens alone: a text of blanks shows no sign either. -/
theorem ofText_eq (s : String) : ofText s =
    if showsSign none (kinds (Token.ofText s).list) then
      match (Token.ofText s).fault with
      | some (what, position) => .invalid ⟨.unterminated what, position⟩
      | none =>
        match Query.ofTokens s.utf8ByteSize (Token.ofText s).list with
        | .ok q => .query q
        | .error e => .invalid e
    else .freeText := by
  rw [ofText]
  split
  next hblank =>
    have hlist : (Token.ofText s).list = [] := by
      rw [List.eq_nil_iff_forall_not_mem]
      intro p hp
      obtain ⟨c, hc, hnot, -⟩ := Token.exists_scan_of_mem hp
      exact hnot (List.all_eq_true.1 hblank c hc)
    rw [hlist]
    rfl
  next => rfl

/-- A text is a query if it has no literal without an end, shows a sign and is derived. -/
theorem ofText_eq_query_iff : ofText s = .query q ↔
    ∃ ts, Token.Cuts false s.toList ts ∧ showsSign none ts ∧ Query.Derives .or 0 ts q := by
  constructor
  · intro h
    unfold ofText at h
    split at h
    · cases h
    dsimp only at h
    split at h
    next hsign =>
      split at h
      next => cases h
      next hfault =>
        split at h
        next hread =>
          cases h
          exact ⟨_, Token.cuts_kinds hfault, hsign, Query.ofTokens_eq_ok_iff.1 hread⟩
        next => cases h
    next => cases h
  · rintro ⟨ts, hcuts, hsign, hderives⟩
    obtain ⟨hfault, rfl⟩ : (Token.ofText s).fault = none ∧ kinds (Token.ofText s).list = ts :=
      hcuts.scanFrom 0
    have hblank : ¬Text.isBlankText s.toList := fun hblank => by
      rw [hcuts.eq_nil_of_isBlankText hblank] at hsign
      cases hsign
    have hread : Query.ofTokens s.utf8ByteSize (Token.ofText s).list = .ok q :=
      Query.ofTokens_eq_ok_iff.2 hderives
    have hsign' : showsSign none ((Token.ofText s).list.map (·.token)) := hsign
    simp only [ofText, hblank, hsign', hfault, hread, if_true, if_false, Bool.false_eq_true]

/-- The tokens of a sign are not written without their characters. -/
theorem not_showsSign {before : Option Token}
    (h : ∀ t ∈ ts, t ≠ .open ∧ ∀ symbol, t ≠ .operator symbol) : ¬showsSign before ts := by
  induction ts generalizing before with
  | nil => exact Bool.false_ne_true
  | cons t ts ih =>
    have hsign : signAt before (t :: ts) = false := by
      unfold signAt
      split
      next hts =>
        rw [(List.cons.inj hts).2] at h
        exact absurd rfl ((h _ (List.mem_cons_of_mem _ List.mem_cons_self)).2 _)
      next hts =>
        rw [(List.cons.inj hts).2] at h
        exact absurd rfl (h _ (List.mem_cons_of_mem _ List.mem_cons_self)).1
      next => rfl
    rw [showsSign, hsign, Bool.false_or]
    exact ih fun t ht => h t (List.mem_cons_of_mem _ ht)

/-- A text that can be read as a query is taken for it if one of its conditions is a sign, and
    otherwise for free text, where all of its conditions compare fields that begin like numbers; and
    a text without the characters of operators and without opening parentheses is free text. -/
theorem ofText_by_leaves (s : String) :
    (∀ q, (Token.ofText s).fault = none →
      Query.ofTokens s.utf8ByteSize (Token.ofText s).list = .ok q →
        ((∃ leaf ∈ q.leaves, leaf.IsMarked) → ofText s = .query q) ∧
        ((∀ leaf ∈ q.leaves, ¬leaf.IsMarked) → ofText s = .freeText ∧
          ∀ leaf ∈ q.leaves, ∃ field op v c cs, leaf = .compare field op v ∧
            field.toList = c :: cs ∧ (c.isDigit ∨ c = '-'))) ∧
    ((∀ c ∈ s.toList, c ≠ '=' ∧ c ≠ '!' ∧ c ≠ '<' ∧ c ≠ '>' ∧ c ≠ '(') →
      ofText s = .freeText) := by
  refine ⟨fun q hfault hread => ?_, fun h => ?_⟩
  · have hderives := Query.ofTokens_eq_ok_iff.1 hread
    have hsigns : showsSign none (kinds (Token.ofText s).list) ↔ q.HasMark := by
      have hiff := hderives.showsSign_iff (rfl : opensClause none) .nil
      rw [List.append_nil] at hiff
      simpa [showsSign] using hiff
    refine ⟨fun hmark => ?_, fun hmark => ⟨ofText_of_not_showsSign fun hsign => ?_, ?_⟩⟩
    · exact ofText_eq_query_iff.2 ⟨_, Token.cuts_kinds hfault, hsigns.2 hmark, hderives⟩
    · obtain ⟨leaf, hleaf, hleafmark⟩ := hsigns.1 hsign
      exact hmark leaf hleaf hleafmark
    · intro leaf hleaf
      obtain ⟨_, hcondition⟩ := hderives.isCondition_of_mem_leaves leaf hleaf
      exact hcondition.exists_compare (hmark leaf hleaf)
  · refine ofText_of_not_showsSign (not_showsSign fun t ht => ?_)
    obtain ⟨p, hp, rfl⟩ := List.mem_map.1 ht
    obtain ⟨c, hc, hblank, _, _, _, hscan⟩ := Token.exists_scan_of_mem hp
    obtain ⟨heq, hne, hlt, hgt, hopen⟩ := h c hc
    have hbegins := (Token.scan_proper hblank hscan).1
    refine ⟨fun htoken => hopen ?_, fun symbol htoken => ?_⟩
    · rw [htoken] at hbegins
      exact hbegins
    · rw [htoken] at hbegins
      simp [Token.BeginsWith, Token.isOperatorChar, heq, hne, hlt, hgt] at hbegins

/-- A call among numbers, numbers alone, and a text with a quote that is not closed. -/
theorem ofText_by_leaves_numbers :
    let call := "NOT (1x=2 AND contains(message, 'disk <1>'))"
    let q : Query := .not (.and [.compare "1x" .eq ⟨"2", .number⟩,
      .call .contains "message" (.text "disk <1>")])
    let numbers := "1x=2 OR NOT -y!=a"
    let r : Query := .or [.compare "1x" .eq ⟨"2", .number⟩, .not (.compare "-y" .ne (.string "a"))]
    let words := "it's AND )broken,"
    (Token.ofText call).fault = none ∧
      Query.ofTokens call.utf8ByteSize (Token.ofText call).list = .ok q ∧
      (∃ leaf ∈ q.leaves, leaf.IsMarked) ∧ ofText call = .query q ∧
      (Token.ofText numbers).fault = none ∧
      Query.ofTokens numbers.utf8ByteSize (Token.ofText numbers).list = .ok r ∧
      (∀ leaf ∈ r.leaves, ¬leaf.IsMarked) ∧ ofText numbers = .freeText ∧
      (Token.ofText words).fault = some (.string, 2) ∧
      (∀ c ∈ words.toList, c ≠ '=' ∧ c ≠ '!' ∧ c ≠ '<' ∧ c ≠ '>' ∧ c ≠ '(') ∧
      ofText words = .freeText := by
  intro call q numbers r words
  have hcall : (Token.ofText call).fault = none := by decide +kernel
  have hq : Query.ofTokens call.utf8ByteSize (Token.ofText call).list = .ok q := by decide +kernel
  have hmarked : ∃ leaf ∈ q.leaves, leaf.IsMarked := by decide +kernel
  have hnumbers : (Token.ofText numbers).fault = none := by decide +kernel
  have hr : Query.ofTokens numbers.utf8ByteSize (Token.ofText numbers).list = .ok r := by
    decide +kernel
  have hunmarked : ∀ leaf ∈ r.leaves, ¬leaf.IsMarked := by decide +kernel
  have hwords : (Token.ofText words).fault = some (.string, 2) := by decide +kernel
  have hall : words.toList.all fun c => c ≠ '=' ∧ c ≠ '!' ∧ c ≠ '<' ∧ c ≠ '>' ∧ c ≠ '(' := by
    decide +kernel
  have hplain : ∀ c ∈ words.toList, c ≠ '=' ∧ c ≠ '!' ∧ c ≠ '<' ∧ c ≠ '>' ∧ c ≠ '(' :=
    fun c hc => of_decide_eq_true (List.all_eq_true.1 hall c hc)
  exact ⟨hcall, hq, hmarked, ((ofText_by_leaves call).1 q hcall hq).1 hmarked, hnumbers, hr,
    hunmarked, (((ofText_by_leaves numbers).1 r hnumbers hr).2 hunmarked).1, hwords, hplain,
    (ofText_by_leaves words).2 hplain⟩

end Outcome

end Logbook
