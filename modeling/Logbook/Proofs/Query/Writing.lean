import Logbook.Proofs.Query.Signs

/-!
# Written queries

A query that has been read can be written and read again. It then comes with other tokens, for
chains are put into parentheses, texts into quotes and patterns between slashes; these are its
tokens (`Query.tokens`). That they are read as the same query rests on how queries are read in the
first place (`Query.Canonical`): a chain has two terms at least, and none like itself in front,
since it would have been extended instead.

* `Query.Derives.canonical`: what is read is such a query;
* `Query.Canonical.derives`: its tokens derive it, as long as they nest no deeper than may be;
* `Query.Canonical.cuts`: what is written is cut into its tokens, unless a text is written with an
  escape that is not read as one, or a pattern holds a slash, or turns the slash after it into one.
-/

namespace Logbook

namespace Query

variable {q r : Query} {terms : List Query} {d : Nat} {ts : List Token} {rest : List Char}

/-! ## Queries that are read -/

/-- Queries as they are read. -/
inductive Canonical : Query → Prop
  | and {q r : Query} {terms : List Query} (hq : ∀ qs, q ≠ .and qs)
      (h : ∀ p ∈ q :: r :: terms, Canonical p) : Canonical (.and (q :: r :: terms))
  | or {q r : Query} {terms : List Query} (hq : ∀ qs, q ≠ .or qs)
      (h : ∀ p ∈ q :: r :: terms, Canonical p) : Canonical (.or (q :: r :: terms))
  | not {q : Query} (h : Canonical q) : Canonical q.not
  | condition {q : Query} {w : List Token} (h : IsCondition w q) (hw : ∀ t ∈ w, t.Proper) :
      Canonical q

theorem conj_eq_and (hq : ∀ qs, q ≠ .and qs) (r : Query) : q.conj r = .and [q, r] := by
  cases q <;> first | rfl | exact absurd rfl (hq _)

theorem disj_eq_or (hq : ∀ qs, q ≠ .or qs) (r : Query) : q.disj r = .or [q, r] := by
  cases q <;> first | rfl | exact absurd rfl (hq _)

theorem Canonical.conj (hq : Canonical q) (hr : Canonical r) : Canonical (q.conj r) := by
  by_cases hand : ∃ qs, q = .and qs
  · obtain ⟨qs, rfl⟩ := hand
    cases hq with
    | and hfirst h =>
      exact .and hfirst (List.forall_mem_append.2 ⟨h, List.forall_mem_singleton.2 hr⟩)
    | condition h => cases h
  · rw [not_exists] at hand
    rw [conj_eq_and hand]
    exact .and hand (by simp [hq, hr])

theorem Canonical.disj (hq : Canonical q) (hr : Canonical r) : Canonical (q.disj r) := by
  by_cases hor : ∃ qs, q = .or qs
  · obtain ⟨qs, rfl⟩ := hor
    cases hq with
    | or hfirst h =>
      exact .or hfirst (List.forall_mem_append.2 ⟨h, List.forall_mem_singleton.2 hr⟩)
    | condition h => cases h
  · rw [not_exists] at hor
    rw [disj_eq_or hor]
    exact .or hor (by simp [hq, hr])

theorem canonical_joined {join : Query → Query → Query}
    (hjoin : ∀ {q r}, Canonical q → Canonical r → Canonical (join q r))
    {links : List (List Token × Query)} (hq : Canonical q)
    (hlinks : ∀ link ∈ links, Canonical link.2) : Canonical (joined join q links) := by
  induction links generalizing q with
  | nil => exact hq
  | cons link links ih =>
    obtain ⟨hlink, hlinks⟩ := List.forall_mem_cons.1 hlinks
    exact ih (hjoin hq hlink) hlinks

theorem mem_linked {connective t : Token} {links : List (List Token × Query)}
    {link : List Token × Query} (hlink : link ∈ links) (ht : t ∈ link.1) :
    t ∈ linked connective links :=
  List.mem_flatMap.2 ⟨link, hlink, List.mem_cons_of_mem _ ht⟩

theorem Derives.canonical {phrase : Phrase} {w : List Token} (h : Derives phrase d w q)
    (hw : ∀ t ∈ w, t.Proper) : Canonical q := by
  induction h with
  | or _ _ ih ihs =>
    obtain ⟨hfirst, hlinks⟩ := List.forall_mem_append.1 hw
    exact canonical_joined .disj (ih hfirst) fun link hlink =>
      ihs link hlink fun t ht => hlinks t (mem_linked hlink ht)
  | and _ _ ih ihs =>
    obtain ⟨hfirst, hlinks⟩ := List.forall_mem_append.1 hw
    exact canonical_joined .conj (ih hfirst) fun link hlink =>
      ihs link hlink fun t ht => hlinks t (mem_linked hlink ht)
  | not _ _ ih => exact .not (ih fun t ht => hw t (List.mem_cons_of_mem _ ht))
  | primary _ ih => exact ih hw
  | group _ _ ih =>
    exact ih fun t ht => hw t (List.mem_cons_of_mem _ (List.mem_append_left _ ht))
  | condition h => exact .condition h hw

/-! ## Tokens of queries -/

/-- The token of a value. -/
def valueToken (v : Literal) : Token :=
  match v.type with
  | .string => .string v.value
  | _ => .word v.value

/-- The token of an argument. -/
def argumentToken : Argument → Token
  | .text s => .string s
  | .pattern source flags => .pattern source flags

mutual

/-- The tokens of a query as it is written. -/
def tokens : Query → List Token
  | .and terms => .open :: chainTokens .and terms ++ [.close]
  | .or terms => .open :: chainTokens .or terms ++ [.close]
  | .not q => .not :: tokens q
  | .compare field op v => [.word field, .operator op.symbol, valueToken v]
  | .call function field a =>
    [.word function.name, .open, .word field, .comma, argumentToken a, .close]

/-- The tokens of the terms of a chain with a connective between them. -/
def chainTokens (connective : Token) : List Query → List Token
  | [] => []
  | [q] => tokens q
  | q :: qs => tokens q ++ connective :: chainTokens connective qs

/-- How deep the parentheses of chains and the negations of a query nest. -/
def depth : Query → Nat
  | .and terms => depthOf terms + 1
  | .or terms => depthOf terms + 1
  | .not q => depth q + 1
  | .compare _ _ _ => 0
  | .call _ _ _ => 0

/-- The greatest depth of some queries. -/
def depthOf : List Query → Nat
  | [] => 0
  | q :: qs => max (depth q) (depthOf qs)

end

theorem depth_le_depthOf {p : Query} (h : p ∈ terms) : p.depth ≤ depthOf terms := by
  induction terms with
  | nil => exact absurd h List.not_mem_nil
  | cons q qs ih =>
    rw [depthOf]
    rcases List.mem_cons.1 h with rfl | h
    · exact Nat.le_max_left ..
    · exact Nat.le_trans (ih h) (Nat.le_max_right ..)

theorem chainTokens_cons (connective : Token) (q : Query) (terms : List Query) :
    chainTokens connective (q :: terms) =
      tokens q ++ linked connective (terms.map fun p => (tokens p, p)) := by
  induction terms generalizing q with
  | nil => exact (List.append_nil _).symm
  | cons r terms ih =>
    rw [chainTokens, ih r, List.map_cons, linked_cons]
    nofun

theorem joined_of_append {join : Query → Query → Query} {chain : List Query → Query}
    (hjoin : ∀ qs r, join (chain qs) r = chain (qs ++ [r])) (qs : List Query)
    (links : List (List Token × Query)) :
    joined join (chain qs) links = chain (qs ++ links.map (·.2)) := by
  induction links generalizing qs with
  | nil => rw [List.map_nil, List.append_nil]; rfl
  | cons link links ih =>
    show joined join (join (chain qs) link.2) links = _
    rw [hjoin, ih, List.append_assoc]
    rfl

/-- The links after the first one are joined to the chain that it begins. -/
theorem joined_terms {join : Query → Query → Query} {chain : List Query → Query}
    (hjoin : ∀ qs r, join (chain qs) r = chain (qs ++ [r])) (hfirst : join q r = chain [q, r]) :
    joined join q ((r :: terms).map fun p => (tokens p, p)) = chain (q :: r :: terms) := by
  show joined join (join q r) (terms.map fun p => (tokens p, p)) = _
  rw [hfirst, joined_of_append hjoin, List.map_map]
  simp [Function.comp_def]

/-- A chain of one link. -/
theorem Derives.single_and {w : List Token} (h : Derives .not d w q) : Derives .and d w q := by
  simpa [linked, joined] using Derives.and h (List.forall_mem_nil _)

theorem Derives.single_or {w : List Token} (h : Derives .and d w q) : Derives .or d w q := by
  simpa [linked, joined] using Derives.or h (List.forall_mem_nil _)

end Query

theorem Literal.value_bare (s : String) : (bare s).value = s := by
  unfold bare
  split
  · rfl
  · split <;> rfl

/-- A word that is taken for a text is written as one. -/
theorem IsValue.valueToken {t : Token} {v : Literal} (h : IsValue t v) :
    IsValue (Query.valueToken v) v := by
  cases h with
  | string s => exact .string s
  | word s =>
    unfold Query.valueToken
    split
    next htype =>
      have hbare : Literal.bare s = .string (Literal.bare s).value := by
        rw [Literal.string, ← htype]
      rw [hbare]
      exact .string _
    next =>
      rw [Literal.value_bare]
      exact .word s

theorem TextFunction.proper_name (function : TextFunction) :
    Token.Proper (.word function.name) := by
  cases function <;> exact ⟨by decide, List.all_eq_true.1 (by decide), by decide⟩

/-- A text that is taken for a pattern is written as one. -/
theorem IsArgument.argumentToken {function : TextFunction} {t : Token} {a : Argument}
    (h : IsArgument function t a) : IsArgument function (Query.argumentToken a) a := by
  cases h with
  | pattern h => exact .pattern h
  | quoted h => exact .pattern h
  | string hf s => exact .string hf s
  | word hf s => exact .string hf s

namespace Query

variable {q r : Query} {terms : List Query} {d : Nat} {ts : List Token} {rest : List Char}

theorem Canonical.derives (h : Canonical q) (hd : d + q.depth ≤ maxNesting) :
    Derives .not d q.tokens q := by
  induction h generalizing d with
  -- Every chain stands in parentheses, so that its terms are one level deeper.
  | @and q r terms hq _ ih =>
    rw [depth] at hd
    have hterm : ∀ p ∈ q :: r :: terms, Derives .not (d + 1) p.tokens p := fun p hp =>
      ih p hp (by have := depth_le_depthOf hp; omega)
    have hchain : Derives .and (d + 1) (chainTokens .and (q :: r :: terms))
        (.and (q :: r :: terms)) := by
      rw [chainTokens_cons, ← joined_terms (fun _ _ => rfl) (conj_eq_and hq r)]
      refine .and (hterm q List.mem_cons_self) fun link hlink => ?_
      obtain ⟨p, hp, rfl⟩ := List.mem_map.1 hlink
      exact hterm p (List.mem_cons_of_mem q hp)
    rw [tokens]
    exact .primary (.group (by omega) hchain.single_or)
  | @or q r terms hq _ ih =>
    rw [depth] at hd
    have hterm : ∀ p ∈ q :: r :: terms, Derives .and (d + 1) p.tokens p := fun p hp =>
      (ih p hp (by have := depth_le_depthOf hp; omega)).single_and
    have hchain : Derives .or (d + 1) (chainTokens .or (q :: r :: terms))
        (.or (q :: r :: terms)) := by
      rw [chainTokens_cons, ← joined_terms (fun _ _ => rfl) (disj_eq_or hq r)]
      refine .or (hterm q List.mem_cons_self) fun link hlink => ?_
      obtain ⟨p, hp, rfl⟩ := List.mem_map.1 hlink
      exact hterm p (List.mem_cons_of_mem q hp)
    rw [tokens]
    exact .primary (.group (by omega) hchain)
  | not _ ih =>
    rw [depth] at hd
    rw [tokens]
    exact .not (by omega) (ih (by omega))
  | condition h hw =>
    cases h with
    | comparison hf op hv =>
      rw [tokens]
      exact .primary (.condition (.comparison hf op hv.valueToken))
    | call hf ha =>
      rw [tokens]
      exact .primary (.condition (.call hf ha.argumentToken))

/-! ## Texts of queries -/

/-- The text that a condition holds in quotes. -/
def quoted? : Query → Option String
  | .compare _ _ v => if v.type = .string then some v.value else none
  | .call _ _ (.text s) => some s
  | _ => none

/-- The pattern of a condition. -/
def pattern? : Query → Option String
  | .call _ _ (.pattern source _) => some source
  | _ => none

/-- Whether a condition can be written: its text needs no other escapes than those of quotes and
    backslashes, and its pattern holds no slash and leaves the closing one what it is. -/
structure Writable (q : Query) : Prop where
  quoted : ∀ s ∈ q.quoted?, Text.QuotesPlainly s.toList
  pattern : ∀ s ∈ q.pattern?, '/' ∉ s.toList ∧ (Text.lastBackslashes s.toList).length % 2 = 0

/-- A text in front of any that does not go on with its last word is cut into tokens of its own. -/
def CutsInto (cs : List Char) (ts : List Token) : Prop :=
  ∀ ⦃rest : List Char⦄ ⦃us : List Token⦄, Token.Ends Token.isWordChar rest →
    Token.Cuts false rest us → Token.Cuts false (cs ++ rest) (ts ++ us)

theorem ends_symbol (op : CompareOp) (cs : List Char) :
    Token.Ends Token.isWordChar (op.symbol.toList ++ cs) := by
  cases op <;> exact .cons (by decide)

theorem cuts_field {s : String} (hs : Token.Proper (.word s)) {rest : List Char} {us : List Token}
    (hrest : Token.Ends Token.isWordChar rest) (h : Token.Cuts false rest us) :
    Token.Cuts false (s.toList ++ rest) (.word s :: us) := by
  obtain ⟨hne, hword, hplain⟩ := hs
  have hcuts := Token.Cuts.word hne hword hrest h
  rwa [String.ofList_toList, hplain] at hcuts

theorem written_of_type_eq {v : Literal} (h : v.type = .string) :
    literalText v = quotedText v.value ∧ valueToken v = .string v.value := by
  simp only [literalText, valueToken, h, and_self]

/-- Only a word is taken for anything but a text. -/
theorem written_of_type_ne {v : Literal} (h : v.type ≠ .string) {t : Token} (hv : IsValue t v) :
    literalText v = v.value.toList ∧ valueToken v = .word v.value ∧ t = .word v.value := by
  cases hv with
  | string s => exact absurd rfl h
  | word s =>
    refine ⟨?_, ?_, congrArg _ (Literal.value_bare s).symm⟩
    · unfold literalText
      split
      next htype => exact absurd htype h
      next => rfl
    · unfold valueToken
      split
      next htype => exact absurd htype h
      next => rfl

theorem cutsInto_value {t : Token} {v : Literal} (ht : t.Proper) (hv : IsValue t v)
    (hw : v.type = .string → Text.QuotesPlainly v.value.toList) :
    CutsInto (literalText v) [valueToken v] := by
  intro rest us hrest hcuts
  by_cases htype : v.type = .string
  · obtain ⟨htext, htoken⟩ := written_of_type_eq htype
    rw [htext, htoken]
    exact .quoted (hw htype) hcuts
  · obtain ⟨htext, htoken, rfl⟩ := written_of_type_ne htype hv
    rw [htext, htoken]
    exact cuts_field ht hrest hcuts

theorem ends_value {t : Token} {v : Literal} (ht : t.Proper) (hv : IsValue t v) (rest : List Char) :
    Token.Ends Token.isOperatorChar (literalText v ++ rest) := by
  by_cases htype : v.type = .string
  · rw [(written_of_type_eq htype).1]
    exact .cons (by decide)
  · obtain ⟨htext, -, rfl⟩ := written_of_type_ne htype hv
    obtain ⟨hne, hword, -⟩ := ht
    obtain ⟨c, cs, hs⟩ := List.exists_cons_of_ne_nil hne
    rw [htext, hs]
    exact .cons (Token.isWordChar_iff.1 (hword c (hs ▸ List.mem_cons_self))).2.1

theorem cutsInto_compare {field : String} {op : CompareOp} {t : Token} {v : Literal}
    (hf : Token.Proper (.word field)) (ht : t.Proper) (hv : IsValue t v)
    (hw : Writable (.compare field op v)) :
    CutsInto (shown (.compare field op v)) (tokens (.compare field op v)) := by
  intro rest us hrest hcuts
  have htext : v.type = .string → Text.QuotesPlainly v.value.toList := fun htype =>
    hw.quoted _ (if_pos htype)
  rw [shown, tokens, List.append_assoc, List.append_assoc]
  exact cuts_field hf (ends_symbol op _) (.operator op (ends_value ht hv rest)
    (cutsInto_value ht hv htext hrest hcuts))

theorem cutsInto_call {field : String} {function : TextFunction} {t : Token} {a : Argument}
    (hf : Token.Proper (.word field)) (ht : t.Proper) (ha : IsArgument function t a)
    (hw : Writable (.call function field a)) :
    CutsInto (shown (.call function field a)) (tokens (.call function field a)) := by
  intro rest us hrest hcuts
  have hargument : Token.Cuts true (argumentText a ++ (')' :: rest))
      (argumentToken a :: .close :: us) := by
    have hclose : Token.Cuts false (')' :: rest) (.close :: us) := .close hcuts
    cases ha with
    | pattern h =>
      obtain ⟨hslash, heven⟩ := hw.pattern _ rfl
      exact .pattern hslash heven ht (.cons (by decide)) hclose
    | quoted h =>
      obtain ⟨hslash, heven⟩ := hw.pattern _ rfl
      exact .pattern hslash heven nofun (.cons (by decide)) hclose
    | string _ s => exact .quoted (hw.quoted s rfl) hclose
    | word _ s => exact .quoted (hw.quoted s rfl) hclose
  rw [shown, tokens]
  simp only [List.append_assoc, List.cons_append, List.nil_append]
  exact cuts_field function.proper_name (.cons (by decide))
    (.open (cuts_field hf (.cons (by decide)) (.comma (.space hargument))))

/-- The terms of a chain are kept apart by their connective. -/
theorem cutsInto_chain {w : List Char} (hne : w ≠ []) (hw : ∀ c ∈ w, Token.isWordChar c)
    (h : ∀ p ∈ terms, CutsInto p.shown p.tokens) (hterms : terms ≠ []) :
    CutsInto (chainShown (' ' :: w ++ [' ']) terms)
      (chainTokens (Token.ofWord (String.ofList w)) terms) := by
  induction terms with
  | nil => exact absurd rfl hterms
  | cons p terms ih =>
    obtain ⟨hp, hmore⟩ := List.forall_mem_cons.1 h
    cases terms with
    | nil => exact hp
    | cons r terms =>
      intro rest us hrest hcuts
      -- The blank ends the last word of the term, and the connective is a word of its own.
      have hchain := ih hmore (List.cons_ne_nil _ _) hrest hcuts
      rw [chainShown, chainTokens]
      · simp only [List.append_assoc, List.cons_append, List.nil_append]
        refine hp (.cons (by decide)) (.space ?_)
        exact .word hne hw (.cons (by decide)) (.space hchain)
      · nofun
      · nofun

theorem cutsInto_parentheses {cs : List Char} {ts : List Token} (h : CutsInto cs ts) :
    CutsInto ('(' :: cs ++ [')']) (.open :: ts ++ [.close]) := by
  intro rest us _ hcuts
  simp only [List.append_assoc, List.cons_append, List.nil_append]
  exact .open (h (.cons (by decide)) (.close hcuts))

theorem Canonical.cuts (h : Canonical q) (hw : ∀ leaf ∈ q.leaves, leaf.Writable) :
    CutsInto q.shown q.tokens := by
  induction h with
  | @and q r terms _ _ ih =>
    rw [leaves_and, List.forall_mem_flatMap] at hw
    have hterms : ∀ p ∈ q :: r :: terms, CutsInto p.shown p.tokens := fun p hp => ih p hp (hw p hp)
    rw [shown, tokens]
    exact cutsInto_parentheses (cutsInto_chain (w := "AND".toList) (by decide)
      (List.all_eq_true.1 (by decide)) hterms (List.cons_ne_nil _ _))
  | @or q r terms _ _ ih =>
    rw [leaves_or, List.forall_mem_flatMap] at hw
    have hterms : ∀ p ∈ q :: r :: terms, CutsInto p.shown p.tokens := fun p hp => ih p hp (hw p hp)
    rw [shown, tokens]
    exact cutsInto_parentheses (cutsInto_chain (w := "OR".toList) (by decide)
      (List.all_eq_true.1 (by decide)) hterms (List.cons_ne_nil _ _))
  | not _ ih =>
    intro rest us hrest hcuts
    have hinner := ih (by rwa [leaves_not] at hw) hrest hcuts
    rw [shown, tokens, List.append_assoc]
    exact Token.Cuts.word (w := "NOT".toList) (by decide) (List.all_eq_true.1 (by decide))
      (.cons (by decide)) (.space hinner)
  | condition h hproper =>
    have hleaf := hw _ (by rw [h.leaves_eq]; exact List.mem_singleton_self _)
    cases h with
    | comparison _ op hv =>
      exact cutsInto_compare (hproper _ (by simp)) (hproper _ (by simp)) hv hleaf
    | call _ ha => exact cutsInto_call (hproper _ (by simp)) (hproper _ (by simp)) ha hleaf

end Query

namespace Outcome

open Query (maxNesting)

variable {s : String} {q : Query}

/-- What is written of a query that was read is read as this query, if its texts need no other
    escapes than those of quotes and backslashes, its patterns hold no slash and do not end in a
    backslash without a partner, and its parentheses and negations do not nest too deep. -/
theorem ofText_shown (h : ofText s = .query q)
    (hquoted : ∀ leaf ∈ q.leaves, ∀ t ∈ leaf.quoted?, Text.QuotesPlainly t.toList)
    (hslash : ∀ leaf ∈ q.leaves, ∀ p ∈ leaf.pattern?, '/' ∉ p.toList)
    (hbackslash : ∀ leaf ∈ q.leaves, ∀ p ∈ leaf.pattern?,
      (Text.lastBackslashes p.toList).length % 2 = 0)
    (hdepth : q.depth ≤ maxNesting) : ofText (String.ofList q.shown) = .query q := by
  obtain ⟨ts, hcuts, hsign, hderives⟩ := ofText_eq_query_iff.1 h
  have hcanonical : q.Canonical := hderives.canonical hcuts.proper
  have hwritable : ∀ leaf ∈ q.leaves, leaf.Writable := fun leaf hleaf =>
    ⟨hquoted leaf hleaf, fun p hp => ⟨hslash leaf hleaf p hp, hbackslash leaf hleaf p hp⟩⟩
  have hcutsAgain : Token.Cuts false q.shown q.tokens := by
    simpa using hcanonical.cuts hwritable (.nil _) .nil
  have hderivesAgain : Query.Derives .or 0 q.tokens q :=
    (hcanonical.derives (by omega)).single_and.single_or
  -- Both texts show a sign exactly if the query holds a condition that is one.
  have hsigns : ∀ {us : List Token}, Query.Derives .or 0 us q →
      (showsSign none us ↔ q.HasMark) := fun hus => by
    simpa [showsSign] using hus.showsSign_iff (rfl : opensClause none) .nil
  refine ofText_eq_query_iff.2 ⟨q.tokens, ?_, ?_, hderivesAgain⟩
  · rwa [String.toList_ofList]
  · rwa [hsigns hderivesAgain, ← hsigns hderives]

/-- A chain in a chain, words, numbers, a text with quotes, and both ways to give a pattern. -/
theorem ofText_shown_chains :
    let s := "NOT (level=error OR @x.y != 'say \"a\\\\b\"') AND (pid>=35 AND " ++
      "matches(req.url, \"^a\\\\.b$\") AND matches(message, /a\\\\|b/s))"
    let q : Query := .and [.not (.or [.compare "level" .eq (.string "error"),
        .compare "@x.y" .ne (.string "say \"a\\b\"")]),
      .and [.compare "pid" .ge ⟨"35", .number⟩, .call .matches "req.url" (.pattern "^a\\.b$" ""),
        .call .matches "message" (.pattern "a\\\\|b" "s")]]
    ofText s = .query q ∧
      (∀ leaf ∈ q.leaves, ∀ t ∈ leaf.quoted?, Text.QuotesPlainly t.toList) ∧
      (∀ leaf ∈ q.leaves, ∀ p ∈ leaf.pattern?, '/' ∉ p.toList) ∧
      (∀ leaf ∈ q.leaves, ∀ p ∈ leaf.pattern?, (Text.lastBackslashes p.toList).length % 2 = 0) ∧
      q.depth ≤ maxNesting ∧ ofText (String.ofList q.shown) = .query q := by
  intro s q
  have h : ofText s = .query q := by decide +kernel
  have hprintable : ∀ leaf ∈ q.leaves, ∀ t ∈ leaf.quoted?, Text.isPrintableAscii t.toList := by
    decide +kernel
  have hquoted : ∀ leaf ∈ q.leaves, ∀ t ∈ leaf.quoted?, Text.QuotesPlainly t.toList :=
    fun leaf hleaf t ht => Text.quotesPlainly_of_isPrintableAscii (hprintable leaf hleaf t ht)
  have hslash : ∀ leaf ∈ q.leaves, ∀ p ∈ leaf.pattern?, '/' ∉ p.toList := by decide +kernel
  have hbackslash : ∀ leaf ∈ q.leaves, ∀ p ∈ leaf.pattern?,
      (Text.lastBackslashes p.toList).length % 2 = 0 := by decide +kernel
  have hdepth : q.depth ≤ maxNesting := by decide +kernel
  exact ⟨h, hquoted, hslash, hbackslash, hdepth, ofText_shown h hquoted hslash hbackslash hdepth⟩

/-- The last backslash of a pattern may stand in a comment of it, where it takes nothing with it;
    written between slashes it takes the closing one. -/
theorem ofText_shown_comment :
    let q : Query := .call .matches "message" (.pattern "(?x)a#\\" "")
    ofText "matches(message, \"(?x)a#\\\\\")" = .query q ∧
      (∀ leaf ∈ q.leaves, ∀ t ∈ leaf.quoted?, Text.QuotesPlainly t.toList) ∧
      (∀ leaf ∈ q.leaves, ∀ p ∈ leaf.pattern?, '/' ∉ p.toList) ∧
      q.depth ≤ maxNesting ∧ String.ofList q.shown = "matches(message, /(?x)a#\\/)" ∧
      ofText (String.ofList q.shown) = .invalid ⟨.unterminated .pattern, 17⟩ := by
  intro q
  have hquoted : ∀ leaf ∈ q.leaves, leaf.quoted? = none := by decide +kernel
  refine ⟨by decide +kernel, fun leaf hleaf t ht => ?_, by decide +kernel, by decide +kernel,
    by decide +kernel, by decide +kernel⟩
  rw [hquoted leaf hleaf] at ht
  cases ht

end Outcome

end Logbook
