import Logbook.Proofs.Query.Grammar

/-!
# Reading is deriving

A list of tokens is read as a query exactly if the grammar derives the query from it.

* What is read is derived: what a parser takes from the tokens in front of it derives the query that
  it gives (`Query.unit_sound`).
* What is derived is read: a parser takes a phrase as a whole and leaves what follows, unless it
  begins with a connective that would continue the phrase (`Query.Derives.reads`).
-/

namespace Logbook

/-- The tokens without their places. -/
def kinds (tokens : List PlacedToken) : List Token :=
  tokens.map (·.token)

theorem kinds_cons (t : PlacedToken) (tokens : List PlacedToken) :
    kinds (t :: tokens) = t.token :: kinds tokens :=
  rfl

theorem kinds_append (a b : List PlacedToken) : kinds (a ++ b) = kinds a ++ kinds b :=
  List.map_append

theorem kinds_eq_cons_iff {tokens : List PlacedToken} {t : Token} {ts : List Token} :
    kinds tokens = t :: ts ↔ ∃ position rest, tokens = ⟨position, t⟩ :: rest ∧ kinds rest = ts := by
  constructor
  · intro h
    obtain ⟨⟨position, t⟩, rest, rfl, rfl, hrest⟩ := List.map_eq_cons_iff.1 h
    exact ⟨position, rest, rfl, hrest⟩
  · rintro ⟨position, rest, rfl, rfl⟩
    rfl

theorem kinds_eq_append_iff {tokens : List PlacedToken} {v w : List Token} :
    kinds tokens = v ++ w ↔ ∃ a b, tokens = a ++ b ∧ kinds a = v ∧ kinds b = w :=
  List.map_eq_append_iff

theorem bind_eq_ok_iff {ε α β : Type} {x : Except ε α} {f : α → Except ε β} {b : β} :
    (x >>= f) = .ok b ↔ ∃ a, x = .ok a ∧ f a = .ok b := by
  cases x with
  | error e => exact ⟨nofun, fun ⟨_, h, _⟩ => nomatch h⟩
  | ok a => exact ⟨fun h => ⟨a, rfl, h⟩, fun ⟨_, h, hf⟩ => Except.ok.inj h ▸ hf⟩

namespace Query

variable {ending : Nat} {tokens rest : List PlacedToken} {q : Query}

/-! ## Conditions -/

theorem fieldAt_eq_ok_iff {name field : String} {position : Nat} :
    fieldAt name position = .ok field ↔ IsFieldName name ∧ field = name := by
  rw [fieldAt, ← isField_iff]
  split
  next h => simp [h, eq_comm]
  next h => simp [h, fail]

theorem comparison_eq_ok_iff {word symbol : String} {position : Nat} {operator : PlacedToken} :
    comparison ending word position operator symbol tokens = .ok (q, rest) ↔
      ∃ t op v, tokens = t :: rest ∧ IsFieldName word ∧ symbol = op.symbol ∧ IsValue t.token v ∧
        q = .compare word op v := by
  rw [comparison, bind_eq_ok_iff]
  simp only [fieldAt_eq_ok_iff]
  constructor
  · rintro ⟨field, ⟨hfield, rfl⟩, h⟩
    split at h
    next => cases h
    next op hop =>
      have hsymbol := CompareOp.ofSymbol?_eq_some_iff.1 hop
      split at h
      next =>
        cases h
        exact ⟨_, op, _, rfl, hfield, hsymbol, .string _, rfl⟩
      next =>
        cases h
        exact ⟨_, op, _, rfl, hfield, hsymbol, .word _, rfl⟩
      next => cases h
  · rintro ⟨t, op, v, rfl, hfield, hsymbol, hv, rfl⟩
    refine ⟨word, ⟨hfield, rfl⟩, ?_⟩
    rw [CompareOp.ofSymbol?_eq_some_iff.2 hsymbol]
    obtain ⟨position, t⟩ := t
    cases hv <;> rfl

theorem argument_eq_ok_iff {function : TextFunction} {a : Argument} :
    argument ending function tokens = .ok (a, rest) ↔
      ∃ t, tokens = t :: rest ∧ IsArgument function t.token a := by
  constructor
  · intro h
    unfold argument at h
    dsimp only at h
    split at h
    next =>
      split at h
      next hprog => cases h; exact ⟨_, rfl, .pattern hprog⟩
      next => cases h
    next =>
      split at h
      next hprog => cases h; exact ⟨_, rfl, .quoted hprog⟩
      next => cases h
    next => cases h
    next => cases h
    next hf => cases h; exact ⟨_, rfl, .string hf _⟩
    next hf => cases h; exact ⟨_, rfl, .word hf _⟩
    next => cases h
  · rintro ⟨⟨position, t⟩, rfl, ha⟩
    cases ha with
    | pattern h => simp only [argument, h]
    | quoted h => simp only [argument, h]
    | string hf s => cases function <;> first | rfl | exact absurd rfl hf
    | word hf s => cases function <;> first | rfl | exact absurd rfl hf

theorem functionCall_eq_ok_iff {name : String} {position : Nat} :
    functionCall ending name position tokens = .ok (q, rest) ↔
      ∃ used field function t a, tokens = used ++ rest ∧
        kinds used = [.word field, .comma, t, .close] ∧ name = function.name ∧
        IsFieldName field ∧ IsArgument function t a ∧ q = .call function field a := by
  constructor
  · intro h
    unfold functionCall at h
    split at h
    next => cases h
    next function hname =>
      split at h
      next word after =>
        simp only [bind_eq_ok_iff, fieldAt_eq_ok_iff] at h
        obtain ⟨field, ⟨hfield, rfl⟩, h⟩ := h
        split at h
        next =>
          simp only [bind_eq_ok_iff, Prod.exists, argument_eq_ok_iff] at h
          obtain ⟨a, _, ⟨t, rfl, ha⟩, h⟩ := h
          split at h
          next place =>
            cases h
            exact ⟨[_, _, t, _], field, function, t.token, a, rfl, rfl,
              TextFunction.ofName?_eq_some_iff.1 hname, hfield, ha, rfl⟩
          next => cases h
        next => cases h
      next => cases h
  · rintro ⟨used, field, function, t, a, rfl, hkinds, hname, hfield, ha, rfl⟩
    simp only [kinds_eq_cons_iff] at hkinds
    obtain ⟨p, _, rfl, _, _, rfl, place, _, rfl, last, used, rfl, hused⟩ := hkinds
    obtain rfl := List.map_eq_nil_iff.1 hused
    have hfieldAt : fieldAt field p = .ok field := fieldAt_eq_ok_iff.2 ⟨hfield, rfl⟩
    simp only [functionCall, TextFunction.ofName?_eq_some_iff.2 hname, List.cons_append, hfieldAt,
      List.nil_append]
    have harg : argument ending function (⟨place, t⟩ :: ⟨last, .close⟩ :: rest) =
        .ok (a, ⟨last, .close⟩ :: rest) := argument_eq_ok_iff.2 ⟨_, rfl, ha⟩
    exact bind_eq_ok_iff.2 ⟨_, rfl, bind_eq_ok_iff.2 ⟨_, harg, rfl⟩⟩

theorem condition_eq_ok_iff :
    condition ending tokens = .ok (q, rest) ↔
      ∃ used, tokens = used ++ rest ∧ IsCondition (kinds used) q := by
  constructor
  · intro h
    unfold condition at h
    split at h
    next => cases h
    next =>
      split at h
      next =>
        obtain ⟨used, field, function, t, a, rfl, hkinds, rfl, hfield, ha, rfl⟩ :=
          functionCall_eq_ok_iff.1 h
        refine ⟨_ :: _ :: used, rfl, ?_⟩
        simp only [kinds_cons, hkinds]
        exact .call hfield ha
      next =>
        obtain ⟨t, op, v, rfl, hfield, rfl, hv, rfl⟩ := comparison_eq_ok_iff.1 h
        exact ⟨[_, _, t], rfl, .comparison hfield op hv⟩
      next => cases h
    next => cases h
  · rintro ⟨used, rfl, h⟩
    generalize hkinds : kinds used = w at h
    cases h with
    | comparison hf op hv =>
      simp only [kinds_eq_cons_iff] at hkinds
      obtain ⟨p, _, rfl, _, _, rfl, _, used, rfl, hused⟩ := hkinds
      obtain rfl := List.map_eq_nil_iff.1 hused
      exact comparison_eq_ok_iff.2 ⟨_, op, _, rfl, hf, rfl, hv, rfl⟩
    | call hf ha =>
      obtain ⟨_, _, rfl, htail⟩ := kinds_eq_cons_iff.1 hkinds
      obtain ⟨_, used, rfl, hused⟩ := kinds_eq_cons_iff.1 htail
      exact functionCall_eq_ok_iff.2 ⟨used, _, _, _, _, rfl, hused, rfl, hf, ha, rfl⟩

/-- What is left does not begin with a token. -/
def Stops (t : Token) (rest : List PlacedToken) : Prop :=
  ∀ next ∈ rest.head?, next.token ≠ t

/-! ## What is read is derived -/

/-- What a parser takes is in a relation to the query that it gives. -/
def Sound (p : List PlacedToken → Parse) (R : List Token → Query → Prop) : Prop :=
  ∀ tokens q rest, p tokens = .ok (q, rest) → ∃ used, tokens = used ++ rest ∧ R (kinds used) q

section Chains

variable {item : List PlacedToken → Parse} {R : List Token → Query → Prop} {connective : Token}
  {join : Query → Query → Query}

/-- There is no link where the bound is reached or another token follows. -/
theorem links_stop {bound : Nat} {left : Query}
    (h : bound = 0 ∨ Stops connective tokens) :
    links item connective join bound left tokens = .ok (left, tokens) := by
  unfold links
  split
  next t tokens =>
    rw [if_neg]
    rcases h with h | h
    · cases h
    · exact h t rfl
  next => rfl

theorem links_sound (hitem : Sound item R) {bound : Nat} {left : Query}
    (h : links item connective join bound left tokens = .ok (q, rest)) :
    ∃ used further, tokens = used ++ rest ∧ kinds used = linked connective further ∧
      (∀ link ∈ further, R link.1 link.2) ∧ q = joined join left further := by
  -- The induction is on the bound, and every link takes a step of it.
  induction bound generalizing left tokens with
  | zero =>
    rw [links_stop (.inl rfl)] at h
    cases h
    exact ⟨[], [], rfl, rfl, List.forall_mem_nil _, rfl⟩
  | succ bound ih =>
    by_cases hstop : Stops connective tokens
    · rw [links_stop (.inr hstop)] at h
      cases h
      exact ⟨[], [], rfl, rfl, List.forall_mem_nil _, rfl⟩
    · obtain ⟨t, tokens, rfl, ht⟩ : ∃ t ts, tokens = t :: ts ∧ t.token = connective := by
        cases tokens with
        | nil => exact absurd nofun hstop
        | cons t ts => exact ⟨t, ts, rfl, by simpa [Stops] using hstop⟩
      rw [links, if_pos ht, bind_eq_ok_iff] at h
      obtain ⟨⟨right, after⟩, hright, hlinks⟩ := h
      obtain ⟨taken, rfl, hR⟩ := hitem _ _ _ hright
      obtain ⟨used, further, rfl, hused, hfurther, rfl⟩ := ih hlinks
      refine ⟨t :: taken ++ used, (kinds taken, right) :: further, ?_, ?_, ?_, rfl⟩
      · rw [List.cons_append, List.cons_append, List.append_assoc]
      · rw [kinds_append, kinds_cons, ht, hused]
        rfl
      · exact List.forall_mem_cons.2 ⟨hR, hfurther⟩

theorem chain_sound (hitem : Sound item R) {S : List Token → Query → Prop}
    (hchain : ∀ w q further, R w q → (∀ link ∈ further, R link.1 link.2) →
      S (w ++ linked connective further) (joined join q further)) :
    Sound (chain item connective join) S := by
  intro tokens q rest h
  obtain ⟨⟨left, after⟩, hleft, hlinks⟩ := bind_eq_ok_iff.1 h
  obtain ⟨taken, rfl, hR⟩ := hitem _ _ _ hleft
  obtain ⟨used, further, rfl, hused, hfurther, rfl⟩ := links_sound hitem hlinks
  refine ⟨taken ++ used, (List.append_assoc ..).symm, ?_⟩
  rw [kinds_append, hused]
  exact hchain _ _ _ hR hfurther

end Chains

theorem conjunction_sound {item : List PlacedToken → Parse} {d : Nat}
    (hitem : Sound item (Derives .not d)) : Sound (chain item .and conj) (Derives .and d) :=
  chain_sound hitem fun _ _ _ hfirst hrest => .and hfirst hrest

theorem formula_sound {item : List PlacedToken → Parse} {d : Nat}
    (hitem : Sound item (Derives .not d)) : Sound (formula item) (Derives .or d) :=
  chain_sound (conjunction_sound hitem) fun _ _ _ hfirst hrest => .or hfirst hrest

theorem condition_sound {d : Nat} : Sound (condition ending) (Derives .not d) := by
  intro tokens q rest h
  obtain ⟨used, rfl, hcond⟩ := condition_eq_ok_iff.1 h
  exact ⟨used, rfl, .primary (.condition hcond)⟩

/-- Induction on the room that is left for negations and groups. -/
theorem unit_sound {room d : Nat} (h : d + room = maxNesting) :
    Sound (unit ending room) (Derives .not d) := by
  induction room generalizing d with
  | zero =>
    intro tokens q rest hread
    unfold unit at hread
    split at hread
    next => cases hread
    next => cases hread
    next heq => cases heq
    next heq => cases heq
    next => exact condition_sound _ _ _ hread
  | succ room ih =>
    -- What stands under a negation or in a group has one room less, and one more around it.
    have hroom : d < maxNesting := by omega
    have hinner : Sound (unit ending room) (Derives .not (d + 1)) := ih (by omega)
    intro tokens q rest hread
    unfold unit at hread
    split at hread
    next heq => cases heq
    next heq => cases heq
    next heq =>
      cases heq
      obtain ⟨⟨p, after⟩, hp, hread⟩ := bind_eq_ok_iff.1 hread
      cases hread
      obtain ⟨used, rfl, hderives⟩ := hinner _ _ _ hp
      exact ⟨_ :: used, rfl, .not hroom hderives⟩
    next position _ heq =>
      cases heq
      obtain ⟨⟨p, after⟩, hp, hclose⟩ := bind_eq_ok_iff.1 hread
      obtain ⟨used, rfl, hderives⟩ := formula_sound hinner _ _ _ hp
      dsimp only at hclose
      split at hclose
      next place _ =>
        cases hclose
        refine ⟨⟨position, .open⟩ :: used ++ [⟨place, .close⟩], by simp, .primary ?_⟩
        rw [kinds_append]
        exact .group hroom hderives
      next => cases hclose
    next => exact condition_sound _ _ _ hread

/-! ## What is derived is read -/

/-- A parser takes the tokens as the query, and leaves what may follow. -/
def Reads (p : List PlacedToken → Parse) (follow : List PlacedToken → Prop) (w : List Token)
    (q : Query) : Prop :=
  ∀ used rest, kinds used = w → follow rest → p (used ++ rest) = .ok (q, rest)

section Chains

variable {item : List PlacedToken → Parse} {follow : List PlacedToken → Prop} {connective : Token}
  {join : Query → Query → Query} {further : List (List Token × Query)}

/-- What follows an item of a chain is a link, or what follows the chain. -/
theorem follow_linked (hconnective : ∀ t ts, t.token = connective → follow (t :: ts))
    {used : List PlacedToken} (hused : kinds used = linked connective further)
    (hrest : follow rest) : follow (used ++ rest) := by
  cases used with
  | nil => exact hrest
  | cons t used =>
    cases further with
    | nil => cases hused
    | cons link further => exact hconnective t _ (List.cons.inj hused).1

/-- Induction on the links. The bound is on the tokens, of which every link takes one at least. -/
theorem reads_links (hconnective : ∀ t ts, t.token = connective → follow (t :: ts))
    (hfurther : ∀ link ∈ further, Reads item follow link.1 link.2) {used : List PlacedToken}
    (hused : kinds used = linked connective further) (hrest : follow rest)
    (hstops : Stops connective rest) (left : Query) {bound : Nat} (hbound : used.length ≤ bound) :
    links item connective join bound left (used ++ rest) =
      .ok (joined join left further, rest) := by
  induction further generalizing left used bound with
  | nil =>
    -- The chain comes to its end only because no connective follows.
    obtain rfl := List.map_eq_nil_iff.1 hused
    exact links_stop (.inr hstops)
  | cons link further ih =>
    obtain ⟨hlink, hfurther⟩ := List.forall_mem_cons.1 hfurther
    rw [linked_cons] at hused
    obtain ⟨place, _, rfl, hlinked⟩ := kinds_eq_cons_iff.1 hused
    obtain ⟨taken, used, rfl, htaken, hmore⟩ := kinds_eq_append_iff.1 hlinked
    -- The connective alone is a token that the bound counts.
    obtain ⟨bound, rfl⟩ : ∃ b, bound = b + 1 := ⟨bound - 1, by simp at hbound; omega⟩
    have hitem : item (taken ++ (used ++ rest)) = .ok (link.2, used ++ rest) :=
      hlink taken _ htaken (follow_linked hconnective hmore hrest)
    rw [List.cons_append, links, if_pos rfl, List.append_assoc, hitem]
    exact ih hfurther hmore _ (by simp at hbound; omega)

theorem reads_chain (hconnective : ∀ t ts, t.token = connective → follow (t :: ts)) {w : List Token}
    (hfirst : Reads item follow w q)
    (hfurther : ∀ link ∈ further, Reads item follow link.1 link.2) :
    Reads (chain item connective join) (fun rest => follow rest ∧ Stops connective rest)
      (w ++ linked connective further) (joined join q further) := by
  rintro used rest hused ⟨hrest, hstops⟩
  obtain ⟨taken, used, rfl, htaken, hused⟩ := kinds_eq_append_iff.1 hused
  rw [List.append_assoc, chain,
    hfirst taken _ htaken (follow_linked hconnective hused hrest)]
  exact reads_links hconnective hfurther hused hrest hstops q (by simp)

end Chains

/-- The parser of a phrase. -/
def parserOf (ending room : Nat) : Phrase → List PlacedToken → Parse
  | .or => formula (unit ending room)
  | .and => chain (unit ending room) .and conj
  | .not | .primary => unit ending room

/-- What may follow a phrase. -/
def MayFollow : Phrase → List PlacedToken → Prop
  | .or, rest => Stops .and rest ∧ Stops .or rest
  | .and, rest => Stops .and rest
  | .not, _ | .primary, _ => True

/-- A condition begins with a word, whatever the room. -/
theorem unit_of_condition {room : Nat} {w : List Token} (h : IsCondition w q)
    {used : List PlacedToken} (hused : kinds used = w) :
    unit ending room (used ++ rest) = .ok (q, rest) := by
  obtain ⟨word, ts, rfl⟩ : ∃ word ts, w = .word word :: ts := by cases h <;> exact ⟨_, _, rfl⟩
  have hcondition : condition ending (used ++ rest) = .ok (q, rest) :=
    condition_eq_ok_iff.2 ⟨used, rfl, hused ▸ h⟩
  obtain ⟨place, used, rfl, -⟩ := kinds_eq_cons_iff.1 hused
  cases room <;> exact hcondition

/-- A phrase is read as a whole, with the room that is left where it stands. -/
theorem Derives.reads {phrase : Phrase} {d : Nat} {w : List Token} (h : Derives phrase d w q) :
    Reads (parserOf ending (maxNesting - d) phrase) (MayFollow phrase) w q := by
  induction h with
  | or _ _ ih ihs =>
    -- A disjunction after a conjunction does not continue it.
    refine reads_chain (fun t ts ht next hnext => ?_) ih ihs
    cases hnext
    rw [ht]
    decide
  | and _ _ ih ihs =>
    rintro used rest hused hrest
    exact reads_chain (fun _ _ _ => trivial) ih ihs used rest hused ⟨trivial, hrest⟩
  | @not d _ _ room _ ih =>
    rintro used rest hused -
    obtain ⟨place, used, rfl, hinner⟩ := kinds_eq_cons_iff.1 hused
    have hroom : maxNesting - d = maxNesting - (d + 1) + 1 := by omega
    rw [hroom]
    exact bind_eq_ok_iff.2 ⟨_, ih used rest hinner trivial, rfl⟩
  | primary _ ih => exact ih
  | @group d _ _ room _ ih =>
    rintro used rest hused -
    obtain ⟨place, _, rfl, hinner⟩ := kinds_eq_cons_iff.1 hused
    obtain ⟨used, _, rfl, hgroup, hclose⟩ := kinds_eq_append_iff.1 hinner
    obtain ⟨last, _, rfl, hnil⟩ := kinds_eq_cons_iff.1 hclose
    obtain rfl := List.map_eq_nil_iff.1 hnil
    -- The parenthesis that closes the group cannot continue what stands in it.
    have hfollow : MayFollow .or (⟨last, .close⟩ :: rest) := by
      constructor <;> rintro next ⟨⟩ <;> nofun
    have hroom : maxNesting - d = maxNesting - (d + 1) + 1 := by omega
    rw [hroom, List.cons_append, List.append_assoc]
    exact bind_eq_ok_iff.2 ⟨_, ih used (⟨last, .close⟩ :: rest) hgroup hfollow, rfl⟩
  | condition h =>
    rintro used rest hused -
    exact unit_of_condition h hused

theorem ofTokens_eq_ok_iff :
    ofTokens ending tokens = .ok q ↔ Derives .or 0 (kinds tokens) q := by
  constructor
  · intro h
    obtain ⟨⟨p, rest⟩, hread, hend⟩ := bind_eq_ok_iff.1 h
    obtain ⟨used, rfl, hderives⟩ := formula_sound (unit_sound (Nat.zero_add _)) _ _ _ hread
    cases rest with
    | nil =>
      cases hend
      rwa [List.append_nil]
    | cons => cases hend
  · intro h
    have hread : parserOf ending (maxNesting - 0) .or (tokens ++ []) = .ok (q, []) :=
      h.reads tokens [] rfl ⟨nofun, nofun⟩
    rw [List.append_nil] at hread
    exact bind_eq_ok_iff.2 ⟨_, hread, rfl⟩

/-- A list of tokens is read as a query exactly if the grammar derives the query from all of it,
    and refused if the grammar derives nothing from it. -/
theorem ofTokens_iff_derives (ending : Nat) (tokens : List PlacedToken) :
    (∀ q, ofTokens ending tokens = .ok q ↔ Derives .or 0 (tokens.map (·.token)) q) ∧
    ((∃ e, ofTokens ending tokens = .error e) ↔
      ∀ q, ¬Derives .or 0 (tokens.map (·.token)) q) := by
  have hiff : ∀ q, ofTokens ending tokens = .ok q ↔ Derives .or 0 (tokens.map (·.token)) q :=
    fun q => ofTokens_eq_ok_iff
  refine ⟨hiff, ?_⟩
  simp only [← hiff]
  cases ofTokens ending tokens with
  | error e => exact ⟨fun _ => nofun, fun _ => ⟨e, rfl⟩⟩
  | ok q => exact ⟨nofun, fun h => absurd rfl (h q)⟩

end Query

end Logbook
