import Logbook.Field.Compare
import Logbook.Field.Lookup
import Logbook.Pattern.Compile

/-!
# What queries mean

Whether a query holds of an entry is said by recursion on the query, with no regard to other entries
or to how it is found out (`Query.Holds`). For a chain it comes down to its terms, and it is of no
account whether one is begun or extended (`Query.holds_conj`, `Query.holds_disj`).
-/

namespace Logbook

/-- Whether a pattern can be used and matches in a text. -/
def Pattern.MatchesIn (source flags : String) (text : List Char) : Prop :=
  ∃ prog, Pattern.compile source flags = .ok prog ∧ prog.isMatch text

/-- Whether a function holds of a shown value. A pattern given to a function of texts makes it hold
    of nothing. -/
def TextFunction.Holds (shown : List Char) : TextFunction → Argument → Prop
  | .contains, .text s => Text.lower s.toList <:+: Text.lower shown
  | .startsWith, .text s => Text.lower s.toList <+: Text.lower shown
  | .endsWith, .text s => Text.lower s.toList <:+ Text.lower shown
  | .matches, .text source => Pattern.MatchesIn source "" shown
  | .matches, .pattern source flags => Pattern.MatchesIn source flags shown
  | _, .pattern _ _ => False

namespace Query

mutual

/-- Whether a query holds of an entry. -/
def Holds (e : Entry) : Query → Prop
  | .and terms => AllHold e terms
  | .or terms => SomeHolds e terms
  | .not q => ¬Holds e q
  | .compare field op v =>
    ∃ actual, e.field? field = some actual ∧ actual.compares op (v.coerce field)
  | .call function field argument =>
    ∃ value, e.field? field = some value ∧ function.Holds value.shown argument

/-- Whether all of some queries hold of an entry. -/
def AllHold (e : Entry) : List Query → Prop
  | [] => True
  | q :: qs => Holds e q ∧ AllHold e qs

/-- Whether one of some queries holds of an entry. -/
def SomeHolds (e : Entry) : List Query → Prop
  | [] => False
  | q :: qs => Holds e q ∨ SomeHolds e qs

end

variable {e : Entry} {p q : Query} {terms : List Query}

theorem allHold_iff : AllHold e terms ↔ ∀ q ∈ terms, Holds e q := by
  induction terms with
  | nil => simp [AllHold]
  | cons q qs ih => simp [AllHold, ih]

theorem someHolds_iff : SomeHolds e terms ↔ ∃ q ∈ terms, Holds e q := by
  induction terms with
  | nil => simp [SomeHolds]
  | cons q qs ih => simp [SomeHolds, ih]

theorem holds_compare_of_field? {field : String} {actual : FieldValue}
    (h : e.field? field = some actual) {op : CompareOp} {v : Literal} :
    Holds e (.compare field op v) ↔ actual.compares op (v.coerce field) := by
  simp only [Holds, h, Option.some.injEq, exists_eq_left']

@[simp] theorem holds_and : Holds e (.and terms) ↔ ∀ q ∈ terms, Holds e q := by
  rw [Holds, allHold_iff]

@[simp] theorem holds_or : Holds e (.or terms) ↔ ∃ q ∈ terms, Holds e q := by
  rw [Holds, someHolds_iff]

@[simp] theorem holds_not : Holds e (.not q) ↔ ¬Holds e q := by
  rw [Holds]

@[simp] theorem holds_conj : Holds e (p.conj q) ↔ Holds e p ∧ Holds e q := by
  cases p <;> simp [conj, or_imp, forall_and]

@[simp] theorem holds_disj : Holds e (p.disj q) ↔ Holds e p ∨ Holds e q := by
  cases p <;> simp [disj, or_and_right, exists_or]

/-- Induction over a query, where it is known of all terms of a chain. -/
@[elab_as_elim]
theorem induct {P : Query → Prop} (and : ∀ terms, (∀ q ∈ terms, P q) → P (.and terms))
    (or : ∀ terms, (∀ q ∈ terms, P q) → P (.or terms)) (not : ∀ q, P q → P (.not q))
    (compare : ∀ field op v, P (.compare field op v))
    (call : ∀ function field argument, P (.call function field argument)) (q : Query) : P q :=
  @Query.rec P (fun qs => ∀ q ∈ qs, P q) and or not compare call (List.forall_mem_nil P)
    (fun _ _ hq hqs => List.forall_mem_cons.2 ⟨hq, hqs⟩) q

end Query

end Logbook
