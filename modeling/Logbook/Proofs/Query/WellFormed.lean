import Logbook.Proofs.Query.Writing

/-!
# Well-formed queries

What a query that has been read looks like from its root to its conditions. Every way down from the
root (`Query.Path`) is short, however long the text is from which the query was read, for every
group and every negation on it takes some of the room that there is, and adds two chains at most
(`Query.Derives.depth_le`). And every query on it is well formed (`Query.IsWellFormed`), which needs
no look at what is below it beside the first term of a chain.
-/

namespace Logbook

/-- Whether a literal is what it is taken for. -/
structure Literal.IsWellFormed (v : Literal) : Prop where
  number : v.type = .number → ∃ d, Double.ofText? v.value.toList = some d ∧ d.isFinite
  boolean : v.type = .boolean → v.value = "true" ∨ v.value = "false"

theorem IsValue.isWellFormed {t : Token} {v : Literal} (h : IsValue t v) : v.IsWellFormed := by
  cases h with
  | string s => exact ⟨nofun, nofun⟩
  | word s =>
    unfold Literal.bare
    split
    next hboolean => exact ⟨nofun, fun _ => hboolean⟩
    next =>
    split
    next hnumber => exact ⟨fun _ => (Option.any_eq_true _ _).1 hnumber, nofun⟩
    next => exact ⟨nofun, nofun⟩

/-- Whether a function may be given an argument: a pattern that can be used, or a text. -/
structure TextFunction.Takes (function : TextFunction) (a : Argument) : Prop where
  matches_iff : function = .matches ↔ ∃ source flags, a = .pattern source flags
  compiles : ∀ source flags, a = .pattern source flags →
    ∃ prog, Pattern.compile source flags = .ok prog

theorem IsArgument.takes {function : TextFunction} {t : Token} {a : Argument}
    (h : IsArgument function t a) : function.Takes a := by
  cases h with
  | @pattern source flags prog hprog =>
    refine ⟨⟨fun _ => ⟨source, flags, rfl⟩, fun _ => rfl⟩, ?_⟩
    rintro _ _ ⟨⟩
    exact ⟨prog, hprog⟩
  | @quoted source prog hprog =>
    refine ⟨⟨fun _ => ⟨source, "", rfl⟩, fun _ => rfl⟩, ?_⟩
    rintro _ _ ⟨⟩
    exact ⟨prog, hprog⟩
  | string hf s => exact ⟨⟨fun heq => absurd heq hf, nofun⟩, nofun⟩
  | word hf s => exact ⟨⟨fun heq => absurd heq hf, nofun⟩, nofun⟩

namespace Query

variable {q : Query} {terms : List Query} {path : List Query}

/-- Whether a query is well formed at its root. -/
def IsWellFormed : Query → Prop
  | .and terms => 2 ≤ terms.length ∧ ∀ qs, terms.head? ≠ some (.and qs)
  | .or terms => 2 ≤ terms.length ∧ ∀ qs, terms.head? ≠ some (.or qs)
  | .not _ => True
  | .compare field _ v => IsFieldName field ∧ v.IsWellFormed
  | .call function field a => IsFieldName field ∧ function.Takes a

/-- The queries of which a query is made. -/
def children : Query → List Query
  | .and terms => terms
  | .or terms => terms
  | .not q => [q]
  | .compare _ _ _ => []
  | .call _ _ _ => []

/-- A way down from a query, which is its first member. -/
inductive Path : Query → List Query → Prop
  | stop (q : Query) : Path q [q]
  | down {q p : Query} {path : List Query} (hp : p ∈ q.children) (h : Path p path) :
      Path q (q :: path)

/-- What holds all the way down holds of the query and all the way down from its children. -/
theorem forall_path_iff {P : Query → Prop} :
    (∀ path, q.Path path → ∀ p ∈ path, P p) ↔
      P q ∧ ∀ p ∈ q.children, ∀ path, p.Path path → ∀ r ∈ path, P r := by
  constructor
  · intro h
    refine ⟨h [q] (.stop q) q List.mem_cons_self, fun p hp path hpath r hr => ?_⟩
    exact h (q :: path) (.down hp hpath) r (List.mem_cons_of_mem q hr)
  · rintro ⟨hq, hchildren⟩ path hpath
    cases hpath with
    | stop => exact List.forall_mem_singleton.2 hq
    | down hp hpath => exact List.forall_mem_cons.2 ⟨hq, hchildren _ hp _ hpath⟩

/-! ## Every query on the way -/

theorem Canonical.isWellFormed (h : Canonical q) : q.IsWellFormed := by
  cases h with
  | @and q r terms hq _ =>
    refine ⟨Nat.le_add_left 2 terms.length, fun qs heq => ?_⟩
    exact hq qs (Option.some.inj heq)
  | @or q r terms hq _ =>
    refine ⟨Nat.le_add_left 2 terms.length, fun qs heq => ?_⟩
    exact hq qs (Option.some.inj heq)
  | not _ => trivial
  | condition h _ =>
    cases h with
    | comparison hf _ hv => exact ⟨hf, hv.isWellFormed⟩
    | call hf ha => exact ⟨hf, ha.takes⟩

theorem Canonical.child (h : Canonical q) : ∀ p ∈ q.children, Canonical p := by
  cases h with
  | and _ h => exact h
  | or _ h => exact h
  | not h => exact List.forall_mem_singleton.2 h
  | condition h _ => cases h <;> exact List.forall_mem_nil _

theorem Canonical.of_path (hpath : Path q path) (h : Canonical q) : ∀ p ∈ path, Canonical p := by
  induction hpath with
  | stop q => exact List.forall_mem_singleton.2 h
  | down hp _ ih => exact List.forall_mem_cons.2 ⟨h, ih (h.child _ hp)⟩

/-! ## The length of the way -/

theorem depthOf_le_iff {n : Nat} : depthOf terms ≤ n ↔ ∀ p ∈ terms, p.depth ≤ n := by
  induction terms with
  | nil => simp [depthOf]
  | cons q terms ih =>
    rw [depthOf, List.forall_mem_cons, ← ih]
    exact Nat.max_le

theorem depth_and (terms : List Query) : (and terms).depth = depthOf terms + 1 := by
  rw [depth]

theorem depth_or (terms : List Query) : (or terms).depth = depthOf terms + 1 := by
  rw [depth]

theorem depth_lt_of_mem_children {p : Query} (h : p ∈ q.children) : p.depth < q.depth := by
  cases q with
  | and terms => exact Nat.lt_succ_of_le (depth_le_depthOf h)
  | or terms => exact Nat.lt_succ_of_le (depth_le_depthOf h)
  | not q => exact List.mem_singleton.1 h ▸ Nat.lt_succ_self _
  | compare => exact absurd h List.not_mem_nil
  | call => exact absurd h List.not_mem_nil

theorem Path.length_le (h : Path q path) : path.length ≤ q.depth + 1 := by
  induction h with
  | stop q => exact Nat.succ_le_succ (Nat.zero_le _)
  | down hp _ ih => exact Nat.succ_le_succ (Nat.le_trans ih (depth_lt_of_mem_children hp))

theorem conj_cases (q r : Query) : (∃ qs, q = .and qs) ∨ q.conj r = .and [q, r] := by
  cases q with
  | and qs => exact .inl ⟨qs, rfl⟩
  | _ => exact .inr rfl

theorem disj_cases (q r : Query) : (∃ qs, q = .or qs) ∨ q.disj r = .or [q, r] := by
  cases q with
  | or qs => exact .inl ⟨qs, rfl⟩
  | _ => exact .inr rfl

/-- How much deeper than what is negated or grouped in it a phrase may be. -/
def Phrase.layers : Phrase → Nat
  | .or => 2
  | .and => 1
  | .not => 0
  | .primary => 0

/-- A chain is one node above the deepest of its links, whose own chain the first one goes on. -/
theorem depth_joined_le {join : Query → Query → Query} {chain : List Query → Query}
    (hjoin : ∀ qs r, join (chain qs) r = chain (qs ++ [r]))
    (hdepth : ∀ qs, (chain qs).depth = depthOf qs + 1)
    (hfirst : ∀ q r, (∃ qs, q = chain qs) ∨ join q r = chain [q, r])
    {n : Nat} {links : List (List Token × Query)} (hq : q.depth ≤ n)
    (hlinks : ∀ link ∈ links, link.2.depth ≤ n) : (joined join q links).depth ≤ n + 1 := by
  have hterms : ∀ p ∈ links.map (·.2), p.depth ≤ n := by
    rintro _ hp
    obtain ⟨link, hlink, rfl⟩ := List.mem_map.1 hp
    exact hlinks link hlink
  have hchain : ∀ qs, (∀ p ∈ qs, p.depth ≤ n) → (chain qs).depth ≤ n + 1 := fun qs hqs =>
    hdepth qs ▸ Nat.succ_le_succ (depthOf_le_iff.2 hqs)
  cases links with
  | nil => exact Nat.le_succ_of_le hq
  | cons link links =>
    rcases hfirst q link.2 with ⟨qs, rfl⟩ | hjoined
    · rw [joined_of_append hjoin]
      rw [hdepth] at hq
      have hqs := depthOf_le_iff.1 (Nat.le_of_succ_le hq)
      exact hchain _ (List.forall_mem_append.2 ⟨hqs, hterms⟩)
    -- Otherwise the first two links begin a chain, to which the other ones are added.
    · show (joined join (join q link.2) links).depth ≤ n + 1
      rw [hjoined, joined_of_append hjoin]
      obtain ⟨hlink, hrest⟩ := List.forall_mem_cons.1 hterms
      exact hchain _ (List.forall_mem_cons.2 ⟨hq, List.forall_mem_cons.2 ⟨hlink, hrest⟩⟩)

theorem Derives.depth_le {phrase : Phrase} {d : Nat} {w : List Token} (h : Derives phrase d w q) :
    q.depth ≤ 2 * (maxNesting - d) + phrase.layers := by
  induction h with
  | or _ _ ih ihs => exact depth_joined_le (fun _ _ => rfl) depth_or disj_cases ih ihs
  | and _ _ ih ihs => exact depth_joined_le (fun _ _ => rfl) depth_and conj_cases ih ihs
  | @not d w q room inner ih =>
    show q.depth + 1 ≤ 2 * (maxNesting - d)
    have hinner : q.depth ≤ 2 * (maxNesting - (d + 1)) := ih
    omega
  | primary _ ih => exact ih
  | @group d w q room inner ih =>
    show q.depth ≤ 2 * (maxNesting - d)
    have hinner : q.depth ≤ 2 * (maxNesting - (d + 1)) + 2 := ih
    omega
  | condition h => cases h <;> exact Nat.zero_le _

/-- A way down from a query that was read has at most two queries for each group and negation that
    may nest, and three more. -/
theorem Derives.path_length_le {w : List Token} (h : Derives .or 0 w q) (hpath : Path q path) :
    path.length ≤ 2 * maxNesting + 3 :=
  Nat.le_trans hpath.length_le (Nat.succ_le_succ h.depth_le)

end Query

end Logbook
