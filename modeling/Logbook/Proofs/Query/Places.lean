import Logbook.Proofs.Query.Spacing
import Logbook.Proofs.Query.Unclosed
import Logbook.Proofs.Store.Responses

/-!
# Where errors are

A parser that cannot go on tells of it at one of the tokens in front of it or at the end of the
query (`Query.PlacesErrors`); what it leaves to others is an end of these tokens. So the error of a
text is at one of its tokens, at its literal without an end or at its end, and in each case between
two characters of it (`Outcome.isPlace_of_invalid`, `Outcome.isValid_of_invalid`).

A text has at most one error, and none if it is free text or a query; a store answers with the
errors of a check (`Outcome.ofText_errors`).
-/

namespace Logbook

variable {ending position : Nat} {tokens rest : List PlacedToken} {e : QueryError}

/-- The place of one of the tokens, or of the end. -/
def IsPlace (ending : Nat) (tokens : List PlacedToken) (position : Nat) : Prop :=
  position = ending ∨ ∃ t ∈ tokens, t.position = position

theorem isPlace_placeOf (ending : Nat) (tokens : List PlacedToken) :
    IsPlace ending tokens (placeOf ending tokens) := by
  cases tokens with
  | nil => exact .inl rfl
  | cons t tokens => exact .inr ⟨t, List.mem_cons_self, rfl⟩

theorem isPlace_head (ending : Nat) (t : PlacedToken) (tokens : List PlacedToken) :
    IsPlace ending (t :: tokens) t.position :=
  .inr ⟨t, List.mem_cons_self, rfl⟩

theorem IsPlace.append_left (h : IsPlace ending rest position) (used : List PlacedToken) :
    IsPlace ending (used ++ rest) position :=
  h.imp_right fun ⟨t, ht, hposition⟩ => ⟨t, List.mem_append_right used ht, hposition⟩

theorem IsPlace.cons (h : IsPlace ending rest position) (t : PlacedToken) :
    IsPlace ending (t :: rest) position :=
  h.append_left [t]

theorem bind_eq_error_iff {ε α β : Type} {x : Except ε α} {f : α → Except ε β} {e : ε} :
    (x >>= f) = .error e ↔ x = .error e ∨ ∃ a, x = .ok a ∧ f a = .error e := by
  cases x with
  | error e' =>
    have hbind : (Except.error e' >>= f) = .error e' := rfl
    rw [hbind]
    simp
  | ok a =>
    have hbind : (Except.ok a >>= f) = f a := rfl
    rw [hbind]
    simp

namespace Query

variable {q : Query}

/-- Whatever keeps a parser from reading, it tells of at one of the tokens or at the end. -/
def PlacesErrors {α : Type} (ending : Nat) (p : List PlacedToken → Except QueryError α) : Prop :=
  ∀ tokens e, p tokens = .error e → IsPlace ending tokens e.position

/-! ## Conditions -/

theorem fieldAt_error {name : String} (h : fieldAt name position = .error e) :
    e.position = position := by
  unfold fieldAt at h
  split at h
  next => cases h
  next => cases h; rfl

theorem argument_error {function : TextFunction} (h : argument ending function tokens = .error e) :
    e.position = placeOf ending tokens := by
  unfold argument at h
  dsimp only at h
  split at h
  next =>
    split at h
    next => cases h
    next => cases h; rfl
  next =>
    split at h
    next => cases h
    next => cases h; rfl
  next => cases h; rfl
  next => cases h; rfl
  next => cases h
  next => cases h
  next => cases h; rfl

theorem comparison_error {word symbol : String} {operator : PlacedToken}
    (h : comparison ending word position operator symbol tokens = .error e) :
    e.position = position ∨ IsPlace ending (operator :: tokens) e.position := by
  rcases bind_eq_error_iff.1 h with h | ⟨field, -, h⟩
  · exact .inl (fieldAt_error h)
  · split at h
    next =>
      cases h
      exact .inr (isPlace_head ending operator tokens)
    next =>
      split at h
      next => cases h
      next => cases h
      next =>
        cases h
        exact .inr ((isPlace_placeOf ending tokens).cons operator)

theorem functionCall_error {name : String}
    (h : functionCall ending name position tokens = .error e) :
    e.position = position ∨ IsPlace ending tokens e.position := by
  unfold functionCall at h
  split at h
  next => cases h; exact .inl rfl
  next function _ =>
  refine .inr ?_
  split at h
  next place word after =>
    rw [bind_eq_error_iff] at h
    rcases h with h | ⟨field, -, h⟩
    · rw [fieldAt_error h]
      exact isPlace_head ending _ after
    · split at h
      next _ arguments =>
        rw [bind_eq_error_iff] at h
        rcases h with h | ⟨⟨a, rest⟩, ha, h⟩
        · rw [argument_error h]
          exact ((isPlace_placeOf ending arguments).cons _).cons _
        · obtain ⟨t, rfl, -⟩ := argument_eq_ok_iff.1 ha
          dsimp only at h
          split at h
          next => cases h
          next =>
            cases h
            exact (((isPlace_placeOf ending rest).cons t).cons _).cons _
      next =>
        cases h
        exact (isPlace_placeOf ending after).cons _
  next =>
    cases h
    cases tokens with
    | nil => exact isPlace_placeOf ending []
    | cons t tokens => exact (isPlace_placeOf ending tokens).cons t

theorem condition_placesErrors (ending : Nat) : PlacesErrors ending (condition ending) := by
  intro tokens e h
  unfold condition at h
  split at h
  next => cases h; exact .inl rfl
  next position word rest =>
    split at h
    next after =>
      rcases functionCall_error h with hword | hplace
      · rw [hword]
        exact isPlace_head ending _ _
      · exact (hplace.cons _).cons _
    next place symbol after =>
      rcases comparison_error h with hword | hplace
      · rw [hword]
        exact isPlace_head ending _ _
      · exact hplace.cons _
    next =>
      cases h
      exact (isPlace_placeOf ending rest).cons _
  next t tokens _ =>
    cases h
    exact isPlace_head ending t tokens

/-! ## Connectives -/

section Chains

variable {item : List PlacedToken → Parse} {R : List Token → Query → Prop} {connective : Token}
  {join : Query → Query → Query}

/-- What a parser leaves is an end of the tokens, so that a place in it is one in them. -/
theorem Sound.isPlace (hitem : Sound item R) (h : item tokens = .ok (q, rest))
    (hplace : IsPlace ending rest position) : IsPlace ending tokens position := by
  obtain ⟨used, rfl, -⟩ := hitem _ _ _ h
  exact hplace.append_left used

theorem links_placesErrors (hitem : Sound item R) (herrors : PlacesErrors ending item)
    (bound : Nat) (left : Query) : PlacesErrors ending (links item connective join bound left) := by
  -- The induction is on the bound, and every link takes a step of it.
  induction bound generalizing left with
  | zero =>
    intro tokens e h
    rw [links_stop (.inl rfl)] at h
    cases h
  | succ bound ih =>
    intro tokens e h
    unfold links at h
    split at h
    next t tokens heq =>
      cases heq
      split at h
      next =>
        rcases bind_eq_error_iff.1 h with h | ⟨⟨right, rest⟩, hright, h⟩
        · exact (herrors _ _ h).cons t
        · exact (hitem.isPlace hright (ih _ _ _ h)).cons t
      next => cases h
    next => cases h

theorem chain_placesErrors (hitem : Sound item R) (herrors : PlacesErrors ending item) :
    PlacesErrors ending (chain item connective join) := by
  intro tokens e h
  rcases bind_eq_error_iff.1 h with h | ⟨⟨left, rest⟩, hleft, h⟩
  · exact herrors _ _ h
  · exact hitem.isPlace hleft (links_placesErrors hitem herrors _ _ _ _ h)

end Chains

theorem formula_placesErrors {item : List PlacedToken → Parse} {d : Nat}
    (hitem : Sound item (Derives .not d)) (herrors : PlacesErrors ending item) :
    PlacesErrors ending (formula item) :=
  chain_placesErrors (conjunction_sound hitem) (chain_placesErrors hitem herrors)

/-- Induction on the room that is left for negations and groups. -/
theorem unit_placesErrors {room d : Nat} (h : d + room = maxNesting) :
    PlacesErrors ending (unit ending room) := by
  induction room generalizing d with
  | zero =>
    intro tokens e hread
    unfold unit at hread
    split at hread
    next => cases hread; exact isPlace_head ending _ _
    next => cases hread; exact isPlace_head ending _ _
    next heq => cases heq
    next heq => cases heq
    next => exact condition_placesErrors ending _ _ hread
  | succ room ih =>
    have hroom : d + 1 + room = maxNesting := by omega
    have hinner : Sound (unit ending room) (Derives .not (d + 1)) := unit_sound hroom
    intro tokens e hread
    unfold unit at hread
    split at hread
    next heq => cases heq
    next heq => cases heq
    next heq =>
      cases heq
      rcases bind_eq_error_iff.1 hread with hread | ⟨_, -, hread⟩
      · exact (ih hroom _ _ hread).cons _
      · cases hread
    next heq =>
      cases heq
      rcases bind_eq_error_iff.1 hread with hread | ⟨⟨p, rest⟩, hp, hread⟩
      · exact (formula_placesErrors hinner (ih hroom) _ _ hread).cons _
      · dsimp only at hread
        split at hread
        next => cases hread
        next =>
          cases hread
          exact ((formula_sound hinner).isPlace hp (isPlace_placeOf ending rest)).cons _
    next => exact condition_placesErrors ending _ _ hread

theorem ofTokens_placesErrors (ending : Nat) : PlacesErrors ending (ofTokens ending) := by
  intro tokens e h
  have hsound : Sound (unit ending maxNesting) (Derives .not 0) := unit_sound (Nat.zero_add _)
  rcases bind_eq_error_iff.1 h with h | ⟨⟨q, rest⟩, hread, h⟩
  · exact formula_placesErrors hsound (unit_placesErrors (Nat.zero_add _)) _ _ h
  · refine (formula_sound hsound).isPlace hread ?_
    dsimp only at h
    split at h
    next => cases h
    next t rest =>
      cases h
      exact isPlace_head ending t rest

end Query

/-! ## Places in a text -/

theorem isValid_utf8ByteSize (front rest : String) :
    String.Pos.Raw.IsValid (front ++ rest) ⟨front.utf8ByteSize⟩ :=
  String.Pos.Raw.isValid_iff_exists_append.2 ⟨front, rest, rfl, rfl⟩

namespace Token

variable {s : String}

theorem Takes.isValid {p : PlacedToken} {text : List Char} (h : Takes 0 s.toList p text) :
    String.Pos.Raw.IsValid s ⟨p.position⟩ := by
  obtain ⟨before, after, hs, hposition, -⟩ := h
  have htext : s = String.ofList before ++ String.ofList (text ++ after) := by
    rw [← String.ofList_append, ← List.append_assoc, ← hs, String.ofList_toList]
  have hbytes : p.position = (String.ofList before).utf8ByteSize := by
    rw [hposition, Nat.zero_add, ← Text.byteLength_toList, String.toList_ofList]
  rw [htext, hbytes]
  exact isValid_utf8ByteSize _ _

/-- A token begins between two characters, also in a text with a literal without an end. -/
theorem isValid_position (s : String) :
    ∀ p ∈ (ofText s).list, String.Pos.Raw.IsValid s ⟨p.position⟩ :=
  ((List.forall₂_and_left _ _).1
    ((takes_textsFrom 0 false s.toList).imp fun _ _ h => ⟨h.isValid, h⟩)).1

theorem isValid_fault {what : Unterminated} {place : Nat}
    (h : (ofText s).fault = some (what, place)) : String.Pos.Raw.IsValid s ⟨place⟩ := by
  have hs : ofText s = ⟨(ofText s).list, some (what, place)⟩ := h ▸ rfl
  obtain ⟨front, c, rest, htext, rfl, -⟩ := ofText_eq_unclosed_iff.1 hs
  rw [htext, String.append_assoc]
  exact isValid_utf8ByteSize _ _

end Token

namespace Outcome

variable {s : String}

theorem mem_errors_iff : e ∈ (ofText s).errors ↔ ofText s = .invalid e := by
  rcases ofText_forms s with h | ⟨q, h⟩ | ⟨e', h⟩ <;>
    simp [h, freeText, query, invalid, eq_comm]

/-- Of a literal without an end the place of its opening is told. -/
theorem isPlace_of_invalid (h : ofText s = .invalid e) :
    IsPlace s.utf8ByteSize (Token.ofText s).list e.position ∨
      ∃ what, (Token.ofText s).fault = some (what, e.position) := by
  rw [ofText_eq] at h
  split at h
  next =>
    split at h
    next what place hfault =>
      cases h
      exact .inr ⟨what, hfault⟩
    next =>
      split at h
      next => cases h
      next hread =>
        cases h
        exact .inl (Query.ofTokens_placesErrors _ _ _ hread)
  next => cases h

theorem isValid_of_invalid (h : ofText s = .invalid e) :
    String.Pos.Raw.IsValid s ⟨e.position⟩ := by
  rcases isPlace_of_invalid h with (hend | ⟨t, ht, hposition⟩) | ⟨what, hfault⟩
  · rw [hend]
    exact String.Pos.Raw.isValid_rawEndPos
  · exact hposition ▸ Token.isValid_position s t ht
  · exact Token.isValid_fault hfault

/-- A text is free text, a query, or has one error. The error is at the end of the text, at one of
    its tokens or at its literal without an end. A store answers with the error, and with none
    otherwise. -/
theorem ofText_errors (s : String) :
    ((ofText s).isFreeText ∧ (ofText s).query? = none ∧ (ofText s).errors = [] ∨
      ¬(ofText s).isFreeText ∧ (∃ q, (ofText s).query? = some q) ∧ (ofText s).errors = [] ∨
      ¬(ofText s).isFreeText ∧ (ofText s).query? = none ∧ ∃ e, (ofText s).errors = [e]) ∧
    (∀ e ∈ (ofText s).errors,
      (e.position = s.utf8ByteSize ∨ (∃ t ∈ (Token.ofText s).list, t.position = e.position) ∨
        ∃ what, (Token.ofText s).fault = some (what, e.position)) ∧
      e.position ≤ s.utf8ByteSize ∧ String.Pos.Raw.IsValid s ⟨e.position⟩) ∧
    ∀ store : Store, (¬(validate s).valid → store.run s = .invalid (validate s).errors) ∧
      ((validate s).valid → ∀ errors, store.run s ≠ .invalid errors) := by
  refine ⟨?_, fun e he => ?_, fun store => ?_⟩
  · rcases ofText_forms s with h | ⟨q, h⟩ | ⟨e, h⟩ <;> rw [h]
    · exact .inl ⟨rfl, rfl, rfl⟩
    · exact .inr (.inl ⟨nofun, ⟨q, rfl⟩, rfl⟩)
    · exact .inr (.inr ⟨nofun, rfl, e, rfl⟩)
  · have h := mem_errors_iff.1 he
    have hvalid := isValid_of_invalid h
    exact ⟨or_assoc.1 (isPlace_of_invalid h), hvalid.le_utf8ByteSize, hvalid⟩
  · rw [validate]
    rcases ofText_forms s with h | ⟨q, h⟩ | ⟨e, h⟩
    · rw [Store.run_of_freeText h, h]
      exact ⟨fun hvalid => absurd rfl hvalid, fun _ _ => nofun⟩
    · rw [Store.run_of_query h, h]
      exact ⟨fun hvalid => absurd rfl hvalid, fun _ _ => nofun⟩
    · rw [Store.run_of_invalid h, h]
      exact ⟨fun _ => rfl, nofun⟩

/-- An operator that there is not, after a letter of two bytes, and a text that is no query. -/
theorem ofText_errors_operator :
    let s := "level='é' AND pid==1"
    let e : QueryError := ⟨.unknownOperator "==", 18⟩
    let store := Store.empty {}
    e ∈ (ofText s).errors ∧
      (e.position = s.utf8ByteSize ∨ (∃ t ∈ (Token.ofText s).list, t.position = e.position) ∨
        ∃ what, (Token.ofText s).fault = some (what, e.position)) ∧
      ¬(validate s).valid ∧ store.run s = .invalid [e] ∧
      (validate "é").valid ∧ ∀ errors, store.run "é" ≠ .invalid errors := by
  intro s e store
  have hs : ofText s = .invalid e := by decide +kernel
  have hmem : e ∈ (ofText s).errors := mem_errors_iff.2 hs
  have hinvalid : ¬(validate s).valid := by
    rw [validate, hs]
    exact Bool.false_ne_true
  have hvalid : (validate "é").valid := by decide +kernel
  obtain ⟨-, hplaces, hstore⟩ := ofText_errors s
  have hrun : store.run s = .invalid [e] :=
    ((hstore store).1 hinvalid).trans (by rw [validate, hs]; rfl)
  exact ⟨hmem, (hplaces e hmem).1, hinvalid, hrun, hvalid,
    ((ofText_errors "é").2.2 store).2 hvalid⟩

end Outcome

end Logbook
