import Logbook.Proofs.Query.Signs

/-!
# How deep queries nest

How many groups and negations stand around a token can be told by looking through the tokens once
(`Query.nesting`). Of tokens that the grammar derives, only this depth matters for whether there is
room for them elsewhere: they are derived within any number of groups and negations that leaves as
much room as they need (`Query.Derives.within`).

What is counted in a phrase does not hang on what stands in front of it, nor, as it ends where the
phrase ends, on what follows (`Query.Nests`).
-/

namespace Logbook

namespace Query

variable {q : Query} {w rest : List Token} {connective : Token} {links : List (List Token × Query)}
  {phrase : Phrase} {d : Nat}

/-- The greatest number of groups and negations around one of the tokens, where there are `here`
    around the first one and `groups` lists how many there were around the first one of each group
    that is open, the innermost group in front. A negation reaches as far as the next connective of
    its group, or to the end of it. A parenthesis after a word opens the call of a function, which
    is no group. -/
def nestingFrom (groups : List Nat) (here : Nat) : List Token → Nat
  | [] => here
  | .word _ :: .open :: ts => nestingFrom (groups.headD 0 :: groups) here ts
  | .open :: ts => nestingFrom ((here + 1) :: groups) (here + 1) ts
  | .close :: ts => max here (nestingFrom groups.tail (groups.tail.headD 0) ts)
  | .not :: ts => nestingFrom groups (here + 1) ts
  | .and :: ts | .or :: ts => max here (nestingFrom groups (groups.headD 0) ts)
  | _ :: ts => nestingFrom groups here ts

/-- How deep the groups and negations of some tokens nest. -/
def nesting (ts : List Token) : Nat :=
  nestingFrom [0] 0 ts

/-- What follows a phrase ends the negations in it. -/
theorem Closes.nestingFrom_eq (h : Closes rest) (groups : List Nat) (here : Nat) :
    nestingFrom groups here rest = max here (nestingFrom groups 0 rest) := by
  cases rest with
  | nil => exact (Nat.max_zero here).symm
  | cons t ts => rcases h t rfl with rfl | rfl | rfl <;> simp [nestingFrom]

/-- No group begins after the last word of a phrase. -/
theorem Closes.nestingFrom_word (h : Closes rest) (s : String) (groups : List Nat) (here : Nat) :
    nestingFrom groups here (.word s :: rest) = nestingFrom groups here rest := by
  cases rest with
  | nil => rfl
  | cons t ts => rcases h t rfl with rfl | rfl | rfl <;> rfl

/-! ## Phrases -/

/-- A phrase adds its own depth to what stands around it, wherever it stands. In front of a chain
    there are no negations in its group. -/
def Nests (phrase : Phrase) (w : List Token) : Prop :=
  ∀ ⦃base here : Nat⦄ (groups : List Nat) ⦃rest : List Token⦄, base ≤ here →
    (phrase = .or ∨ phrase = .and → here = base) → Closes rest →
      nestingFrom (base :: groups) here (w ++ rest) =
        max (here + nesting w) (nestingFrom (base :: groups) 0 rest)

end Query

theorem IsCondition.nestingFrom_eq {w rest : List Token} {q : Query} (h : IsCondition w q)
    {base here : Nat} (groups : List Nat) (hbase : base ≤ here) (hrest : Query.Closes rest) :
    Query.nestingFrom (base :: groups) here (w ++ rest) =
      max here (Query.nestingFrom (base :: groups) 0 rest) := by
  cases h with
  | @comparison field t v hf op hv =>
    show Query.nestingFrom (base :: groups) here (t :: rest) = _
    rw [← hrest.nestingFrom_eq]
    cases hv with
    | string s => rfl
    | word s => exact hrest.nestingFrom_word s _ _
  | @call field function t a hf ha =>
    have hclose : Query.nestingFrom (base :: base :: groups) here (t :: .close :: rest) =
        max here (Query.nestingFrom (base :: groups) base rest) := by
      cases ha <;> rfl
    show Query.nestingFrom (base :: base :: groups) here (t :: .close :: rest) = _
    rw [hclose, hrest.nestingFrom_eq _ base, ← Nat.max_assoc, Nat.max_eq_left hbase]

namespace Query

variable {q : Query} {w rest : List Token} {connective : Token} {links : List (List Token × Query)}
  {phrase : Phrase} {d : Nat}

theorem nesting_condition (h : IsCondition w q) : nesting w = 0 := by
  have hw := h.nestingFrom_eq [] (Nat.le_refl 0) .nil
  rwa [List.append_nil] at hw

theorem nests_condition (h : IsCondition w q) : Nests phrase w := by
  intro base here groups rest hbase _ hrest
  rw [nesting_condition h, Nat.add_zero]
  exact h.nestingFrom_eq groups hbase hrest

theorem Nests.nestingFrom_not (h : Nests .not w) {base here : Nat} (groups : List Nat)
    (hbase : base ≤ here) (hrest : Closes rest) :
    nestingFrom (base :: groups) here (.not :: w ++ rest) =
      max (here + (nesting w + 1)) (nestingFrom (base :: groups) 0 rest) := by
  rw [← Nat.add_assoc, Nat.add_right_comm]
  exact h groups (Nat.le_succ_of_le hbase) nofun hrest

theorem Nests.nestingFrom_group (h : Nests .or w) {base here : Nat} (groups : List Nat)
    (hbase : base ≤ here) (hrest : Closes rest) :
    nestingFrom (base :: groups) here (.open :: w ++ [.close] ++ rest) =
      max (here + (nesting w + 1)) (nestingFrom (base :: groups) 0 rest) := by
  have hclose : nestingFrom ((here + 1) :: base :: groups) 0 (.close :: rest) =
      max base (nestingFrom (base :: groups) 0 rest) := by
    rw [← hrest.nestingFrom_eq]
    exact Nat.zero_max _
  have hinner := h (base :: groups) (Nat.le_refl (here + 1)) (fun _ => rfl)
    (.cons (.inr (.inr rfl)) : Closes (.close :: rest))
  rw [hclose] at hinner
  rw [List.append_assoc]
  refine hinner.trans ?_
  omega

/-- The deepest of the links of a chain. -/
def deepest (links : List (List Token × Query)) : Nat :=
  links.foldr (fun link n => max (nesting link.1) n) 0

theorem deepest_le_iff {n : Nat} : deepest links ≤ n ↔ ∀ link ∈ links, nesting link.1 ≤ n := by
  induction links with
  | nil => simp [deepest]
  | cons link links ih =>
    rw [List.forall_mem_cons, ← ih]
    exact Nat.max_le

theorem nestingFrom_linked (hconnective : connective = .and ∨ connective = .or)
    (hw : Nests phrase w) (hlinks : ∀ link ∈ links, Nests phrase link.1) (base : Nat)
    (groups : List Nat) (hrest : Closes rest) :
    nestingFrom (base :: groups) base (w ++ linked connective links ++ rest) =
      max (base + max (nesting w) (deepest links)) (nestingFrom (base :: groups) 0 rest) := by
  induction links generalizing w with
  | nil =>
    rw [linked, List.flatMap_nil, List.append_nil, deepest, List.foldr_nil, Nat.max_zero]
    exact hw groups (Nat.le_refl base) (fun _ => rfl) hrest
  | cons link links ih =>
    obtain ⟨hlink, hlinks⟩ := List.forall_mem_cons.1 hlinks
    have hcloses : Closes (connective :: (link.1 ++ linked connective links ++ rest)) :=
      .cons (hconnective.imp_right .inl)
    -- The connective ends the negations of the link in front, and the next link begins like it.
    have hnext : nestingFrom (base :: groups) 0
        (connective :: (link.1 ++ linked connective links ++ rest)) =
          nestingFrom (base :: groups) base (link.1 ++ linked connective links ++ rest) := by
      rcases hconnective with rfl | rfl <;> exact Nat.zero_max _
    rw [linked_cons, List.append_assoc, List.cons_append,
      hw groups (Nat.le_refl base) (fun _ => rfl) hcloses, hnext, ih hlink hlinks]
    show _ = max (base + max (nesting w) (max (nesting link.1) (deepest links))) _
    omega

theorem nesting_linked (hconnective : connective = .and ∨ connective = .or)
    (hw : Nests phrase w) (hlinks : ∀ link ∈ links, Nests phrase link.1) :
    nesting (w ++ linked connective links) = max (nesting w) (deepest links) := by
  have hchain := nestingFrom_linked hconnective hw hlinks 0 [] .nil
  rw [List.append_nil] at hchain
  exact hchain.trans (by simp [nestingFrom])

theorem nesting_not (h : Nests .not w) : nesting (.not :: w) = nesting w + 1 := by
  have hw := h.nestingFrom_not [] (Nat.le_refl 0) .nil
  rw [List.append_nil] at hw
  exact hw.trans (by simp [nestingFrom])

theorem nesting_group (h : Nests .or w) : nesting (.open :: w ++ [.close]) = nesting w + 1 := by
  have hw := h.nestingFrom_group [] (Nat.le_refl 0) .nil
  rw [List.append_nil] at hw
  exact hw.trans (by simp [nestingFrom])

theorem nests_linked {chain : Phrase} (hchain : chain = .or ∨ chain = .and)
    (hconnective : connective = .and ∨ connective = .or) (hw : Nests phrase w)
    (hlinks : ∀ link ∈ links, Nests phrase link.1) : Nests chain (w ++ linked connective links) := by
  intro base here groups rest _ hhere hrest
  obtain rfl := hhere hchain
  rw [nesting_linked hconnective hw hlinks]
  exact nestingFrom_linked hconnective hw hlinks here groups hrest

theorem Derives.nests (h : Derives phrase d w q) : Nests phrase w := by
  induction h with
  -- No negation is open in front of a chain, so that its links all begin at the same depth.
  | or _ _ ih ihs => exact nests_linked (.inl rfl) (.inr rfl) ih ihs
  | and _ _ ih ihs => exact nests_linked (.inr rfl) (.inl rfl) ih ihs
  | not _ _ ih =>
    intro base here groups rest hbase _ hrest
    rw [nesting_not ih]
    exact ih.nestingFrom_not groups hbase hrest
  | primary _ ih => exact fun _ _ groups _ hbase _ hrest => ih groups hbase nofun hrest
  | group _ _ ih =>
    intro base here groups rest hbase _ hrest
    rw [nesting_group ih]
    exact ih.nestingFrom_group groups hbase hrest
  | condition h => exact nests_condition h

/-! ## Room -/

theorem Derives.nesting_linked_le_iff {n : Nat} (hconnective : connective = .and ∨ connective = .or)
    (first : Derives phrase d w q) (rest : ∀ link ∈ links, Derives phrase d link.1 link.2) :
    nesting (w ++ linked connective links) ≤ n ↔
      nesting w ≤ n ∧ ∀ link ∈ links, nesting link.1 ≤ n := by
  rw [nesting_linked hconnective first.nests fun link hlink => (rest link hlink).nests, Nat.max_le,
    deepest_le_iff]

/-- Tokens that are derived somewhere are derived wherever there is room for their groups and
    negations. -/
theorem Derives.within (h : Derives phrase d w q) {d' : Nat} (hd : d' + nesting w ≤ maxNesting) :
    Derives phrase d' w q := by
  induction h generalizing d' with
  | or first rest ih ihs =>
    obtain ⟨hfirst, hlinks⟩ :=
      (nesting_linked_le_iff (.inr rfl) first rest).1 (Nat.le_sub_of_add_le' hd)
    exact .or (ih (by omega)) fun link hlink =>
      ihs link hlink (by have := hlinks link hlink; omega)
  | and first rest ih ihs =>
    obtain ⟨hfirst, hlinks⟩ :=
      (nesting_linked_le_iff (.inl rfl) first rest).1 (Nat.le_sub_of_add_le' hd)
    exact .and (ih (by omega)) fun link hlink =>
      ihs link hlink (by have := hlinks link hlink; omega)
  | not room inner ih =>
    rw [nesting_not inner.nests] at hd
    exact .not (by omega) (ih (by omega))
  | primary _ ih => exact .primary (ih hd)
  | group room inner ih =>
    rw [nesting_group inner.nests] at hd
    exact .group (by omega) (ih (by omega))
  | condition h => exact .condition h

/-- There is room for the groups and negations of what is derived, where it is derived. -/
theorem Derives.nesting_le (h : Derives phrase d w q) (hd : d ≤ maxNesting) :
    nesting w ≤ maxNesting - d := by
  induction h with
  | or first rest ih ihs =>
    exact (nesting_linked_le_iff (.inr rfl) first rest).2
      ⟨ih hd, fun link hlink => ihs link hlink hd⟩
  | and first rest ih ihs =>
    exact (nesting_linked_le_iff (.inl rfl) first rest).2
      ⟨ih hd, fun link hlink => ihs link hlink hd⟩
  | not room inner ih =>
    rw [nesting_not inner.nests]
    have := ih room
    omega
  | primary _ ih => exact ih hd
  | group room inner ih =>
    rw [nesting_group inner.nests]
    have := ih room
    omega
  | condition h =>
    rw [nesting_condition h]
    exact Nat.zero_le _

end Query

end Logbook
