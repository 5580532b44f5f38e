import Logbook.Proofs.Query.Answers
import Logbook.Proofs.Query.WellFormed

/-!
# Strict answers

The evaluation makes do with any query: a pattern that cannot be used matches nothing, a number that
cannot be read stands for its text, and a chain may be empty. Where it would have to make do
(`Lapse`), a *strict* evaluation gives up instead (`Source.strictAnswer`); as long as it does not,
it goes the same way (`Source.gives_strictFresh`).

On a query that is well formed it is not given up. Beside what such queries are made of, this rests
on the fields of entries: what a field holds as a number has a place among the numbers
(`Entry.isNumeric_of_field?`), so that it compares with any other.
-/

namespace Logbook

/-- What the evaluation has to make do with. -/
inductive Lapse where
  /-- A chain without terms. -/
  | emptyChain
  /-- A pattern that cannot be used. -/
  | unusable (source flags : String)
  /-- A pattern given to a function of texts. -/
  | misplaced (source flags : String)
  /-- A number that cannot be read. -/
  | unreadable (text : String)
  /-- Two numbers of which one is none. -/
  | unordered (a b : Double)

/-- Whether a strict result is the given one, unless it is given up; which it is not under a
    condition. -/
def Gives {α : Type} (P : Prop) (x : Except Lapse α) (a : α) : Prop :=
  x = .ok a ∨ ¬P ∧ ∃ lapse, x = .error lapse

namespace Gives

variable {α β : Type} {P Q : Prop} {x : Except Lapse α} {a : α}

theorem ok (a : α) : Gives P (.ok a) a :=
  .inl rfl

theorem error (h : ¬P) (lapse : Lapse) : Gives P (.error lapse) a :=
  .inr ⟨h, lapse, rfl⟩

theorem mono (h : Gives P x a) (hQ : Q → P) : Gives Q x a :=
  h.imp_right fun ⟨hP, hx⟩ => ⟨mt hQ hP, hx⟩

theorem bind (hx : Gives P x a) {f : α → Except Lapse β} {b : β} (hf : Gives P (f a) b) :
    Gives P (x >>= f) b := by
  rcases hx with rfl | ⟨hP, lapse, rfl⟩
  · exact hf
  · exact error hP lapse

theorem eq_ok (h : Gives P x a) (hP : P) : x = .ok a :=
  h.resolve_right fun hx => hx.1 hP

end Gives

/-! ## Numbers -/

namespace Double

theorem exists_rank? {d : Double} (h : d ≠ .nan) : ∃ r, d.rank? = some r := by
  cases d with
  | nan => exact absurd rfl h
  | infinite negative => exact ⟨_, rfl⟩
  | finite negative m => exact ⟨_, rfl⟩

theorem exists_compare? {a b : Double} (ha : a ≠ .nan) (hb : b ≠ .nan) :
    ∃ o, a.compare? b = some o := by
  obtain ⟨x, hx⟩ := exists_rank? ha
  obtain ⟨y, hy⟩ := exists_rank? hb
  exact ⟨compare x y, by rw [compare?, hx, hy]⟩

theorem ofRatio_ne_nan (negative : Bool) (p q : Nat) : ofRatio negative p q ≠ .nan := by
  unfold ofRatio
  cases Magnitude.ofRatio? p q <;> nofun

theorem ofInt_ne_nan (n : Int) : ofInt n ≠ .nan :=
  ofRatio_ne_nan _ _ _

theorem ne_nan_of_isFinite {d : Double} (h : d.isFinite) : d ≠ .nan := by
  rintro rfl
  cases h

end Double

theorem Json.ne_nan_of_double? {v : Json} {d : Double} (h : v.double? = some d) : d ≠ .nan := by
  cases v with
  | integer n => exact Option.some.inj h ▸ Double.ofInt_ne_nan n
  | real negative m => exact Option.some.inj h ▸ nofun
  | _ => cases h

/-- Whether a value is a number only if it has a place among the numbers. -/
def FieldValue.IsNumeric : FieldValue → Prop
  | .number d => d ≠ .nan
  | _ => True

theorem FieldValue.isNumeric_of_ofJson? {v : Json} {a : FieldValue}
    (h : FieldValue.ofJson? v = some a) : a.IsNumeric := by
  unfold FieldValue.ofJson? at h
  split at h
  · cases h
    trivial
  · cases h
    trivial
  · obtain ⟨d, hd, rfl⟩ := Option.map_eq_some_iff.1 h
    exact Json.ne_nan_of_double? hd

theorem FieldValue.isNumeric_ofInt (n : Int) : (FieldValue.number (.ofInt n)).IsNumeric :=
  Double.ofInt_ne_nan n

theorem FieldValue.isNumeric_of_mem_map {α : Type} {f : α → FieldValue} {o : Option α}
    {a : FieldValue} (h : a ∈ o.map f) (hf : ∀ x ∈ o, (f x).IsNumeric) : a.IsNumeric := by
  obtain ⟨x, hx, rfl⟩ := Option.map_eq_some_iff.1 h
  exact hf x hx

namespace Entry

variable {e : Entry} {name : String} {a : FieldValue}

theorem ne_nan_of_responseTime {d : Double} (h : e.http?.bind (·.responseTime) = some d) :
    d ≠ .nan := by
  obtain ⟨http, hhttp, hd⟩ := Option.bind_eq_some_iff.1 h
  cases e with
  | pino r =>
    unfold http? httpOf? at hhttp
    dsimp only at hhttp
    split at hhttp
    · cases hhttp
    · cases hhttp
      obtain ⟨v, -, hv⟩ := Option.bind_eq_some_iff.1 hd
      exact Json.ne_nan_of_double? hv
  | _ => cases hhttp

theorem isNumeric_of_commonField? {value : Option FieldValue} (h : e.commonField? name = some value)
    (ha : a ∈ value) : a.IsNumeric := by
  cases a with
  | text _ | bool _ => trivial
  | number d =>
    unfold commonField? at h
    dsimp only at h
    -- The names of texts go away; the others are those of integers and of the response time.
    split at h <;> cases h <;>
      simp only [Option.mem_def, Option.map_eq_some_iff, Option.some.injEq, reduceCtorEq,
        and_false, exists_false, FieldValue.number.injEq, exists_eq_right] at ha
    all_goals first
      | exact ne_nan_of_responseTime ha
      | obtain ⟨n, -, rfl⟩ := ha
        exact Double.ofInt_ne_nan _

theorem isNumeric_of_formatField? {value : Option FieldValue} (h : e.formatField? name = some value)
    (ha : a ∈ value) : a.IsNumeric := by
  cases a with
  | text _ | bool _ => trivial
  | number d =>
    unfold formatField? at h
    -- Here the others are those of integers, which may be missing, and of labels.
    split at h <;> cases h <;>
      simp only [Option.mem_def, Option.map_eq_some_iff, Option.some.injEq, reduceCtorEq,
        and_false, exists_false, FieldValue.number.injEq] at ha
    all_goals first
      | subst ha
        exact Double.ofInt_ne_nan _
      | obtain ⟨n, -, rfl⟩ := ha
        exact Double.ofInt_ne_nan _
      | obtain ⟨v, -, hv⟩ := Option.bind_eq_some_iff.1 ha
        exact FieldValue.isNumeric_of_ofJson? hv

/-- A number in a field of an entry has a place among the numbers. -/
theorem isNumeric_of_field? (h : e.field? name = some a) : a.IsNumeric := by
  unfold field? at h
  dsimp only at h
  split at h
  next value hvalue => exact isNumeric_of_commonField? hvalue h
  next =>
    split at h
    next value hvalue => exact isNumeric_of_formatField? hvalue h
    next =>
      obtain ⟨v, -, hv⟩ := Option.bind_eq_some_iff.1 h
      exact FieldValue.isNumeric_of_ofJson? hv

end Entry

/-! ## Conditions -/

namespace Literal

variable {v : Literal} {field : String}

/-- The value that a literal stands for in a comparison with a field that knows dates or names. -/
def named? (field : String) (v : Literal) : Option FieldValue :=
  match field with
  | "timestamp" =>
    match v.type, Instant.ofText? v.value with
    | .string, some t => some (.number (.ofInt t))
    | _, _ => none
  | "level" => (Level.ofAlias? v.value).map fun l => .text l.name
  | "environment" | "env" => (Environment.ofAlias? v.value).map fun e => .text e.name
  | _ => none

/-- The value that a literal stands for otherwise. -/
def plain (v : Literal) : FieldValue :=
  match v.type with
  | .number => ((Double.ofText? v.value.toList).map .number).getD (.text v.value)
  | .boolean => .bool (v.value = "true")
  | .string => .text v.value

theorem coerce_eq (field : String) (v : Literal) :
    v.coerce field = (v.named? field).getD v.plain := by
  unfold named?
  split
  next =>
    simp only [coerce, plain]
    cases v.type <;> cases Instant.ofText? v.value <;> rfl
  next => simp only [coerce]; rfl
  next => simp only [coerce]; rfl
  next => simp only [coerce]; rfl
  next => simp only [coerce]; rfl

/-- The value that a literal stands for in a comparison with a field, unless it would be its number
    but cannot be read as one. -/
def strictCoerce (field : String) (v : Literal) : Except Lapse FieldValue :=
  match v.named? field, v.type, Double.ofText? v.value.toList with
  | some value, _, _ => .ok value
  | none, .number, none => .error (.unreadable v.value)
  | none, .number, some d => .ok (.number d)
  | none, .boolean, _ => .ok (.bool (v.value = "true"))
  | none, .string, _ => .ok (.text v.value)

theorem gives_strictCoerce (field : String) (v : Literal) :
    Gives v.IsWellFormed (v.strictCoerce field) (v.coerce field) := by
  rw [coerce_eq, strictCoerce, plain]
  cases v.named? field with
  | some value => exact .ok _
  | none =>
    cases htype : v.type with
    | number =>
      cases hvalue : Double.ofText? v.value.toList with
      | some d => exact .ok _
      | none =>
        refine .error (fun h => ?_) _
        obtain ⟨d, hd, -⟩ := h.number htype
        rw [hvalue] at hd
        cases hd
    | boolean => exact .ok _
    | string => exact .ok _

theorem isNumeric_of_named? {value : FieldValue} (h : v.named? field = some value) :
    value.IsNumeric := by
  unfold named? at h
  split at h
  next =>
    split at h
    next => exact Option.some.inj h ▸ FieldValue.isNumeric_ofInt _
    next => cases h
  next => exact FieldValue.isNumeric_of_mem_map h fun _ _ => trivial
  next => exact FieldValue.isNumeric_of_mem_map h fun _ _ => trivial
  next => exact FieldValue.isNumeric_of_mem_map h fun _ _ => trivial
  next => cases h

theorem IsWellFormed.isNumeric_coerce (h : v.IsWellFormed) (field : String) :
    (v.coerce field).IsNumeric := by
  rw [coerce_eq, plain]
  cases hnamed : v.named? field with
  | some value => exact isNumeric_of_named? hnamed
  | none =>
    cases htype : v.type with
    | number =>
      obtain ⟨d, hd, hfinite⟩ := h.number htype
      rw [hd]
      exact Double.ne_nan_of_isFinite hfinite
    | boolean => trivial
    | string => trivial

end Literal

namespace FieldValue

/-- Whether a field's value is in the relation of the operator to an expected value, unless these
    are two numbers that do not compare. -/
def strictCompares (actual : FieldValue) (op : CompareOp) (expected : FieldValue) :
    Except Lapse Bool :=
  match actual, expected with
  | .number a, .number b =>
    match a.compare? b with
    | some o => .ok (op.holds o)
    | none => .error (.unordered a b)
  | actual, expected => .ok (actual.compares op expected)

theorem gives_strictCompares (actual : FieldValue) (op : CompareOp) (expected : FieldValue) :
    Gives (actual.IsNumeric ∧ expected.IsNumeric) (actual.strictCompares op expected)
      (actual.compares op expected) := by
  unfold strictCompares
  split
  next a b =>
    change Gives _ _ ((a.compare? b).any op.holds)
    cases hcompare : a.compare? b with
    | some o => exact .ok _
    | none =>
      refine .error (fun hnumeric => ?_) _
      obtain ⟨o, ho⟩ := Double.exists_compare? hnumeric.1 hnumeric.2
      rw [hcompare] at ho
      cases ho
  next => exact .ok _

end FieldValue

namespace Source

variable {s : Source} {P : Prop} {terms : List Query}

theorem gives_filterAuxM {f : Nat → Except Lapse Bool} {test : Nat → Bool}
    (h : ∀ i, Gives P (f i) (test i)) (l acc : List Nat) :
    Gives P (l.filterAuxM f acc) ((l.filter test).reverse ++ acc) := by
  induction l generalizing acc with
  | nil => exact .ok acc
  | cons i l ih =>
    have hacc : ((i :: l).filter test).reverse ++ acc =
        (l.filter test).reverse ++ cond (test i) (i :: acc) acc := by
      cases htest : test i with
      | true => rw [List.filter_cons_of_pos htest, List.reverse_cons, List.append_assoc]; rfl
      | false => rw [List.filter_cons_of_neg (Bool.eq_false_iff.1 htest)]; rfl
    rw [hacc]
    exact (h i).bind (ih _)

/-- The positions of the entries that pass a test, unless it is given up on one of them. -/
def strictScan (s : Source) (test : Entry → Except Lapse Bool) : Except Lapse (List Nat) :=
  (List.range s.entries.size).filterM fun i => s.entries[i]?.elim (.ok false) test

theorem gives_strictScan {strict : Entry → Except Lapse Bool} {test : Entry → Bool}
    (h : ∀ e, Gives P (strict e) (test e)) : Gives P (s.strictScan strict) (s.scan test) := by
  have htest : ∀ i : Nat, Gives P (s.entries[i]?.elim (.ok false) strict)
      (s.entries[i]?.any test) := by
    intro i
    cases s.entries[i]? with
    | none => exact .ok false
    | some e => exact h e
  have hscan : s.scan test = (((List.range s.entries.size).filter
      fun i => s.entries[i]?.any test).reverse ++ []).reverse := by
    rw [List.append_nil, List.reverse_reverse, scan]
  rw [hscan]
  exact (gives_filterAuxM htest _ []).bind (.ok _)

/-- The answer to a comparison, unless it is given up. -/
def strictComparison (s : Source) (field : String) (op : CompareOp) (v : Literal) :
    Except Lapse Answer := do
  let expected ← v.strictCoerce field
  match s.index.bind fun x => indexed? x field op v.type expected with
  | some positions => return ⟨positions, true⟩
  | none =>
    let positions ← s.strictScan fun e =>
      (e.field? field).elim (.ok false) fun actual => actual.strictCompares op expected
    return ⟨positions, false⟩

theorem gives_strictComparison (s : Source) (field : String) (op : CompareOp) (v : Literal) :
    Gives v.IsWellFormed (s.strictComparison field op v) (s.comparison field op v) := by
  have htest : ∀ e : Entry, Gives v.IsWellFormed ((e.field? field).elim (.ok false) fun actual =>
      actual.strictCompares op (v.coerce field)) (comparisonHolds field op (v.coerce field) e) := by
    intro e
    unfold comparisonHolds
    cases hfield : e.field? field with
    | none => exact .ok false
    | some actual =>
      -- Neither an entry nor a well-formed literal gives a number that has no place among them.
      exact (actual.gives_strictCompares op _).mono fun hv =>
        ⟨Entry.isNumeric_of_field? hfield, hv.isNumeric_coerce field⟩
  refine (v.gives_strictCoerce field).bind ?_
  dsimp only [comparison]
  cases s.index.bind fun x => indexed? x field op v.type (v.coerce field) with
  | some positions => exact .ok _
  | none => exact (gives_strictScan htest).bind (.ok _)

/-- The answer to the match of a pattern, unless it cannot be used. -/
def strictMatching (s : Source) (field source flags : String) : Except Lapse Answer :=
  match Pattern.compile source flags with
  | .ok prog => .ok ⟨s.scan (patternHolds prog field), false⟩
  | .error _ => .error (.unusable source flags)

theorem gives_strictMatching (s : Source) (field source flags : String) :
    Gives (∃ prog, Pattern.compile source flags = .ok prog) (s.strictMatching field source flags)
      (s.matching field source flags) := by
  unfold strictMatching matching
  cases Pattern.compile source flags with
  | ok prog => exact .ok _
  | error e => exact .error nofun _

/-- The answer to a call, unless it is given up. -/
def strictCall (s : Source) (function : TextFunction) (field : String) (argument : Argument) :
    Except Lapse Answer :=
  match function, argument with
  | .matches, .pattern source flags => s.strictMatching field source flags
  | .matches, .text source => s.strictMatching field source ""
  | _, .pattern source flags => .error (.misplaced source flags)
  | function, .text text => .ok (s.call function field (.text text))

theorem gives_strictCall (s : Source) (function : TextFunction) (field : String) (a : Argument) :
    Gives (function.Takes a) (s.strictCall function field a) (s.call function field a) := by
  cases a with
  | pattern source flags =>
    cases function with
    | «matches» =>
      exact (s.gives_strictMatching field source flags).mono fun h => h.compiles _ _ rfl
    | _ => exact .error (fun h => nomatch h.matches_iff.2 ⟨_, _, rfl⟩) _
  | text text =>
    cases function with
    | «matches» =>
      refine (s.gives_strictMatching field text "").mono fun h => ?_
      obtain ⟨_, _, heq⟩ := h.matches_iff.1 rfl
      cases heq
    | _ => exact .ok _

/-! ## Connectives -/

mutual

/-- The answer to a query from an index that is up to date, unless it is given up. -/
def strictFresh (s : Source) : Query → Except Lapse Answer
  | .and terms => if terms.isEmpty then .error .emptyChain else strictAll s none terms
  | .or terms =>
    if terms.isEmpty then .error .emptyChain
    else do
      let a ← strictEach s terms
      return ⟨Index.ascending a.positions, a.usedIndex⟩
  | .not q => do
    let a ← strictFresh s q
    return ⟨s.others a.positions, a.usedIndex⟩
  | .compare field op value => s.strictComparison field op value
  | .call function field argument => s.strictCall function field argument

/-- The positions on which all of the terms hold, and the ones before. -/
def strictAll (s : Source) (before : Option (List Nat)) : List Query → Except Lapse Answer
  | [] => .ok ⟨before.getD (List.range s.entries.size), false⟩
  | q :: qs => do
    let a ← strictFresh s q
    let positions := narrow before a.positions
    if positions.isEmpty then return ⟨[], a.usedIndex⟩
    else
      let rest ← strictAll s (some positions) qs
      return ⟨rest.positions, a.usedIndex || rest.usedIndex⟩

/-- The positions on which the terms hold, one term after the other. -/
def strictEach (s : Source) : List Query → Except Lapse Answer
  | [] => .ok ⟨[], false⟩
  | q :: qs => do
    let a ← strictFresh s q
    let rest ← strictEach s qs
    return ⟨a.positions ++ rest.positions, a.usedIndex || rest.usedIndex⟩

end

/-- The answer to a query, unless it is given up. -/
def strictAnswer (s : Source) (q : Query) : Except Lapse Answer :=
  s.fresh.strictFresh q

example : (⟨#[], none⟩ : Source).strictAnswer (.not (.or [])) = .error .emptyChain := rfl

theorem gives_strictAll (h : ∀ q ∈ terms, Gives P (s.strictFresh q) (s.answerFresh q))
    (before : Option (List Nat)) :
    Gives P (s.strictAll before terms) (s.answerAll before terms) := by
  induction terms generalizing before with
  | nil =>
    rw [strictAll, answerAll]
    exact .ok _
  | cons q terms ih =>
    obtain ⟨hq, hterms⟩ := List.forall_mem_cons.1 h
    rw [strictAll, answerAll_cons]
    refine hq.bind ?_
    dsimp only
    split
    next => exact .ok _
    next => exact (ih hterms _).bind (.ok _)

theorem gives_strictEach (h : ∀ q ∈ terms, Gives P (s.strictFresh q) (s.answerFresh q)) :
    Gives P (s.strictEach terms) (s.answerEach terms) := by
  induction terms with
  | nil =>
    rw [strictEach, answerEach]
    exact .ok _
  | cons q terms ih =>
    obtain ⟨hq, hterms⟩ := List.forall_mem_cons.1 h
    rw [strictEach, answerEach]
    exact hq.bind ((ih hterms).bind (.ok _))

theorem not_isEmpty_of_two_le (h : 2 ≤ terms.length) : ¬terms.isEmpty := by
  rw [List.isEmpty_iff_length_eq_zero]
  omega

/-- The strict evaluation gives up or gives the answer, and it does not give up on a query that is
    well formed all the way down. -/
theorem gives_strictFresh (s : Source) (q : Query) :
    Gives (∀ path, q.Path path → ∀ p ∈ path, p.IsWellFormed) (s.strictFresh q)
      (s.answerFresh q) := by
  induction q using Query.induct with
  | and terms ih =>
    rw [strictFresh, answerFresh]
    split
    next hempty =>
      exact .error (fun h => not_isEmpty_of_two_le (Query.forall_path_iff.1 h).1.1 hempty) _
    next =>
      refine gives_strictAll (fun p hp => (ih p hp).mono fun h => ?_) none
      exact (Query.forall_path_iff.1 h).2 p hp
  | or terms ih =>
    rw [strictFresh, answerFresh]
    split
    next hempty =>
      exact .error (fun h => not_isEmpty_of_two_le (Query.forall_path_iff.1 h).1.1 hempty) _
    next =>
      refine .bind (gives_strictEach fun p hp => (ih p hp).mono fun h => ?_) (.ok _)
      exact (Query.forall_path_iff.1 h).2 p hp
  | not q ih =>
    rw [strictFresh, answerFresh]
    refine .bind (ih.mono fun h => ?_) (.ok _)
    exact (Query.forall_path_iff.1 h).2 q (List.mem_singleton_self q)
  | compare field op v =>
    rw [strictFresh, answerFresh]
    exact (s.gives_strictComparison field op v).mono fun h => (Query.forall_path_iff.1 h).1.2
  | call function field a =>
    rw [strictFresh, answerFresh]
    exact (s.gives_strictCall function field a).mono fun h => (Query.forall_path_iff.1 h).1.2

end Source

/-! ## Texts -/

namespace Outcome

/-- However long a text is, the query that it is read as goes down a few steps only, and is well
    formed on all of them; so it is answered without having to make do with anything. -/
theorem ofText_wellFormed {s : String} {q : Query} (h : ofText s = .query q) :
    (∀ path, q.Path path →
      path.length ≤ 2 * Query.maxNesting + 3 ∧ ∀ p ∈ path, p.IsWellFormed) ∧
    ∀ source : Source, source.strictAnswer q = .ok (source.answer q) := by
  obtain ⟨ts, hcuts, -, hderives⟩ := ofText_eq_query_iff.1 h
  have hcanonical : q.Canonical := hderives.canonical hcuts.proper
  have hwellFormed : ∀ path, q.Path path → ∀ p ∈ path, p.IsWellFormed := fun path hpath p hp =>
    (hcanonical.of_path hpath p hp).isWellFormed
  exact ⟨fun path hpath => ⟨hderives.path_length_le hpath, hwellFormed path hpath⟩,
    fun source => (source.fresh.gives_strictFresh q).eq_ok hwellFormed⟩

/-- Chains in chains, a number, a truth value and a pattern. -/
theorem ofText_wellFormed_chains :
    let s := "NOT (pid>=35 OR (ok=true OR x=y)) AND matches(req.url, \"^a\\\\.b$\")"
    let q : Query := .and [.not (.or [.compare "pid" .ge ⟨"35", .number⟩,
        .or [.compare "ok" .eq ⟨"true", .boolean⟩, .compare "x" .eq (.string "y")]]),
      .call .matches "req.url" (.pattern "^a\\.b$" "")]
    ofText s = .query q ∧
      (∀ path, q.Path path →
        path.length ≤ 2 * Query.maxNesting + 3 ∧ ∀ p ∈ path, p.IsWellFormed) ∧
      ∀ source : Source, source.strictAnswer q = .ok (source.answer q) := by
  intro s q
  have h : ofText s = .query q := by decide +kernel
  exact ⟨h, ofText_wellFormed h⟩

end Outcome

end Logbook
