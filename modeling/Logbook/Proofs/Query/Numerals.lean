import Logbook.Proofs.Index.Answers
import Logbook.Proofs.Number.Shown
import Logbook.Proofs.Query.Strict
import Logbook.Proofs.Text.SmallLetters
import Logbook.Proofs.Text.Trimming

/-!
# Integers with and without quotes

An integer that stands in a query by itself is a number, and between quotes it is a text. A field
holds a number, a text or something else, so that such a comparison is one of two numbers or one of
two texts. For an integer of at most fifteen digits all of these ask the same, whether the field is
shown as the integer (`FieldValue.compares_integer`): two numbers by `Double.sameValue_ofInt_iff`,
and texts because an integer is written in small letters only.

No field makes anything else of such a text. It is no date, for a date has a minus sign behind a
digit (`Instant.ofText?_toString`), and it is not the name of a level or of an environment, which
have letters (`Level.ofAlias?_toString`, `Environment.ofAlias?_toString`).
-/

namespace Logbook

open Json Text

variable {c : Char} {cs : List Char}

/-! ## An integer is nothing else -/

theorem not_isBlank_of_mem_integerText {n : Int} (h : c ∈ integerText n) : ¬isBlank c := by
  rcases mem_integerText h with ⟨rfl, -⟩ | hdigit
  · decide
  · exact not_isBlank_of_isDigit hdigit

theorem trim_integerText (n : Int) : trim (integerText n) = integerText n :=
  trim_of_forall_not fun _ => not_isBlank_of_mem_integerText

theorem not_isAlpha_of_isDigit (h : c.isDigit) : ¬c.isAlpha := by
  have hcode := toNat_of_isDigit h
  have hval : c.val.toNat = c.toNat := rfl
  have hA : 'A'.val.toNat = 0x41 := rfl
  have ha : 'a'.val.toNat = 0x61 := rfl
  simp only [Char.isAlpha, Char.isUpper, Char.isLower, Bool.or_eq_true, Bool.and_eq_true,
    decide_eq_true_eq, UInt32.le_iff_toNat_le, ge_iff_le]
  omega

theorem any_isAlpha_aliasKey (n : Int) :
    (aliasKey (toString n)).toList.any Char.isAlpha = false := by
  rw [aliasKey, toString_eq_integerText, String.toList_ofList, String.toList_ofList,
    trim_integerText, asciiLower, List.any_map, List.any_eq_false]
  intro c hc
  rcases mem_integerText hc with ⟨rfl, -⟩ | hdigit
  · decide
  · rw [Function.comp_apply, Double.toLower_of_isDigit hdigit]
    exact not_isAlpha_of_isDigit hdigit

/-- A name that is known has a letter. -/
theorem Level.any_isAlpha_of_ofAlias? {s : String} {l : Level} (h : ofAlias? s = some l) :
    (aliasKey s).toList.any Char.isAlpha := by
  unfold ofAlias? at h
  split at h <;> cases h
  all_goals
    rw [‹aliasKey s = _›]
    decide

theorem Environment.any_isAlpha_of_ofAlias? {s : String} {e : Environment}
    (h : ofAlias? s = some e) : (aliasKey s).toList.any Char.isAlpha := by
  unfold ofAlias? at h
  split at h <;> cases h
  all_goals
    rw [‹aliasKey s = _›]
    decide

theorem Level.ofAlias?_toString (n : Int) : Level.ofAlias? (toString n) = none :=
  Option.eq_none_iff_forall_ne_some.2 fun _ h =>
    Bool.eq_false_iff.1 (any_isAlpha_aliasKey n) (any_isAlpha_of_ofAlias? h)

theorem Environment.ofAlias?_toString (n : Int) : Environment.ofAlias? (toString n) = none :=
  Option.eq_none_iff_forall_ne_some.2 fun _ h =>
    Bool.eq_false_iff.1 (any_isAlpha_aliasKey n) (any_isAlpha_of_ofAlias? h)

namespace Instant

theorem char?_of_not_mem (h : c ∉ cs) : char? c cs = none := by
  cases cs with
  | nil => rfl
  | cons d ds =>
    refine if_neg ?_
    rintro rfl
    exact h List.mem_cons_self

/-- Behind its first character, an integer has no sign. -/
theorem not_mem_drop_integerText (n : Int) (k : Nat) : '-' ∉ (integerText n).drop (k + 1) := by
  have hdigits : '-' ∉ Nat.toDigits 10 n.natAbs := fun hmem =>
    absurd (isDigit_of_mem_toDigits hmem) (by decide)
  intro hmem
  rw [integerText, Double.signText] at hmem
  split at hmem
  · exact hdigits (List.mem_of_mem_drop hmem)
  · exact hdigits (List.mem_of_mem_drop hmem)

theorem internet?_integerText (n : Int) : internet? (integerText n) = none := by
  unfold internet? exactly?
  dsimp only
  split
  next =>
    rw [Option.bind_eq_bind, Option.bind_some, char?_of_not_mem (not_mem_drop_integerText n 3)]
    rfl
  next => rfl

/-- Something is taken away where a year is read, be it a sign or a digit. -/
theorem exists_drop_of_year? (hcs : cs.dropWhile isBlank = cs) {year : Int} {rest : List Char}
    (h : year? cs = some (year, rest)) : ∃ k, rest = cs.drop (k + 1) := by
  unfold year? at h
  rw [hcs] at h
  split at h
  next ds =>
    obtain ⟨-, h⟩ := Option.ite_none_left_eq_some.1 h
    cases h
    exact ⟨_, rfl⟩
  next ds =>
    obtain ⟨-, h⟩ := Option.ite_none_left_eq_some.1 h
    cases h
    exact ⟨_, rfl⟩
  next =>
    obtain ⟨⟨y, r⟩, hyear, heq⟩ := Option.map_eq_some_iff.1 h
    cases heq
    unfold upTo? at hyear
    rw [hcs] at hyear
    obtain ⟨hne, hyear⟩ := Option.ite_none_left_eq_some.1 hyear
    cases hyear
    obtain ⟨d, ds, hds⟩ := List.exists_cons_of_ne_nil (mt List.isEmpty_iff.2 hne)
    exact ⟨ds.length, by rw [hds]; rfl⟩

theorem date?_integerText (n : Int) : date? (integerText n) = none := by
  have hcs : (integerText n).dropWhile isBlank = integerText n :=
    dropWhile_eq_self fun _ hc => not_isBlank_of_mem_integerText (List.mem_of_mem_head? hc)
  unfold date?
  cases hyear : year? (integerText n) with
  | none => rfl
  | some p =>
    obtain ⟨k, hrest⟩ := exists_drop_of_year? hcs hyear
    have hnone : char? '-' p.2 = none := hrest ▸ char?_of_not_mem (not_mem_drop_integerText n k)
    rw [Option.bind_eq_bind, Option.bind_some]
    dsimp only
    rw [hnone]
    rfl

theorem ofText?_toString (n : Int) : ofText? (toString n) = none := by
  rw [ofText?, toString_eq_integerText, String.toList_ofList, trim_integerText]
  simp only [internet?_integerText, joined?, spaced?, day?, date?_integerText]
  rfl

end Instant

/-! ## Comparing -/

theorem isSmall_of_toNat_lt (h : c.toNat < 0x41) : IsSmall c := by
  refine ⟨by omega, fun r hr => ?_⟩
  have hproper := (capitals_proper r hr).1
  simp only [CaseRun.holds, Bool.and_eq_true, decide_eq_true_eq]
  omega

/-- A number is shown in small letters. -/
theorem Double.lower_text {d : Double} (h : d ≠ .nan) : lower d.text = d.text := by
  cases d with
  | nan => exact absurd rfl h
  | infinite negative => cases negative <;> decide
  | finite negative m =>
    refine lowerAfter_of_forall_isSmall (fun c hc => isSmall_of_toNat_lt ?_) []
    rcases mem_text_finite hc with rfl | rfl | hdigit
    · decide
    · decide
    · exact Nat.lt_of_le_of_lt (toNat_of_isDigit hdigit).2 (by decide)

theorem lower_integerText (n : Int) : lower (integerText n) = integerText n := by
  refine lowerAfter_of_forall_isSmall (fun c hc => isSmall_of_toNat_lt ?_) []
  rcases mem_integerText hc with ⟨rfl, -⟩ | hdigit
  · decide
  · exact Nat.lt_of_le_of_lt (toNat_of_isDigit hdigit).2 (by decide)

namespace FieldValue

variable {n : Int}

theorem shown_ofInt (h : n.natAbs < Double.plainBound) :
    (FieldValue.number (.ofInt n)).shown = integerText n :=
  (Double.sameValue_ofInt_iff (.ofInt n) h).1 <| by
    rw [Double.sameValue, Double.compare?_ofInt n, Int.compare_eq_eq.2 rfl]
    · rfl
    · exact Nat.lt_of_lt_of_le h plainBound_le_exactBound

theorem shown_toString (n : Int) : (FieldValue.text (toString n)).shown = integerText n := by
  rw [shown, toString_eq_integerText, String.toList_ofList]

theorem compares_of_not_numbers {actual expected : FieldValue}
    (h : ∀ a b, actual = .number a → expected ≠ .number b) :
    (actual.compares .eq expected ↔ lower actual.shown = lower expected.shown) ∧
      (actual.compares .ne expected ↔ lower actual.shown ≠ lower expected.shown) := by
  unfold compares
  split
  next a b => exact absurd rfl (h a b rfl)
  next => exact ⟨decide_eq_true_iff, decide_eq_true_iff⟩

/-- Whether it is compared with the number or with the text: a value that is compared with an
    integer for equality is asked if it is shown as the integer. -/
theorem compares_integer {actual expected : FieldValue} (hactual : actual.IsNumeric)
    (hn : n.natAbs < Double.plainBound)
    (hexpected : expected = .number (.ofInt n) ∨ expected = .text (toString n)) :
    (actual.compares .eq expected ↔ lower actual.shown = integerText n) ∧
      (actual.compares .ne expected ↔ lower actual.shown ≠ integerText n) := by
  have hshown : lower expected.shown = integerText n := by
    rcases hexpected with rfl | rfl
    · rw [shown_ofInt hn, lower_integerText]
    · rw [shown_toString, lower_integerText]
  by_cases hnumbers : ∃ a b, actual = .number a ∧ expected = .number b
  · -- Two numbers compare by value, and the value of an integer is shown in one way only.
    obtain ⟨d, b, rfl, rfl⟩ := hnumbers
    rw [hexpected.resolve_right nofun]
    have hsame := Double.sameValue_ofInt_iff d hn
    obtain ⟨o, ho⟩ := Double.exists_compare? hactual (Double.ofInt_ne_nan n)
    rw [Double.sameValue, ho, decide_eq_true_iff, Option.some.injEq] at hsame
    have hlower : lower (FieldValue.number d).shown = d.text := Double.lower_text hactual
    rw [hlower, compares, compares, ho]
    exact ⟨decide_eq_true_iff.trans hsame, decide_eq_true_iff.trans (not_congr hsame)⟩
  · rw [← hshown]
    exact compares_of_not_numbers fun a b ha hb => hnumbers ⟨a, b, ha, hb⟩

end FieldValue

/-! ## Answers -/

namespace Literal

variable {n : Int}

/-- To no field is an integer a date or the name of anything. -/
theorem named?_toString (field : String) (n : Int) (type : LiteralType) :
    (Literal.mk (toString n) type).named? field = none := by
  unfold named?
  split
  next =>
    dsimp only
    rw [Instant.ofText?_toString]
    cases type <;> rfl
  next => rw [Level.ofAlias?_toString]; rfl
  next => rw [Environment.ofAlias?_toString]; rfl
  next => rw [Environment.ofAlias?_toString]; rfl
  next => rfl

theorem coerce_string_toString (field : String) (n : Int) :
    (Literal.string (toString n)).coerce field = .text (toString n) := by
  rw [coerce_eq, string, named?_toString]
  rfl

theorem toString_ne {s : String} (h : ∃ c ∈ s.toList, c ≠ '-' ∧ ¬c.isDigit) (n : Int) :
    toString n ≠ s := by
  rintro rfl
  obtain ⟨c, hc, hminus, hdigit⟩ := h
  rw [toString_eq_integerText, String.toList_ofList] at hc
  exact (mem_integerText hc).elim (fun h => hminus h.1) hdigit

theorem bare_toString (hn : n.natAbs ≤ exactBound) :
    Literal.bare (toString n) = ⟨toString n, .number⟩ := by
  have htrue : toString n ≠ "true" := toString_ne ⟨'t', by decide, by decide, by decide⟩ n
  have hfalse : toString n ≠ "false" := toString_ne ⟨'f', by decide, by decide, by decide⟩ n
  have hfinite : (Double.ofText? (toString n).toList).any Double.isFinite := by
    obtain ⟨m, hm, -⟩ := Double.exists_ofInt hn
    rw [toString_eq_integerText, String.toList_ofList, Double.ofText?_integerText, hm]
    rfl
  rw [bare, if_neg (not_or.2 ⟨htrue, hfalse⟩), if_pos hfinite]

theorem coerce_bare_toString (field : String) (hn : n.natAbs ≤ exactBound) :
    (Literal.bare (toString n)).coerce field = .number (.ofInt n) := by
  rw [coerce_eq, bare_toString hn, named?_toString, plain, toString_eq_integerText,
    String.toList_ofList, Double.ofText?_integerText]
  rfl

end Literal

/-- Quoted or not: an integer that is compared with a field for equality is looked for in what the
    field shows. -/
theorem Query.holds_integer (e : Entry) (field : String) {n : Int}
    (hn : n.natAbs < Double.plainBound) {v : Literal}
    (hv : v = .bare (toString n) ∨ v = .string (toString n)) :
    (Holds e (.compare field .eq v) ↔
        ∃ actual, e.field? field = some actual ∧ lower actual.shown = integerText n) ∧
      (Holds e (.compare field .ne v) ↔
        ∃ actual, e.field? field = some actual ∧ lower actual.shown ≠ integerText n) := by
  have hexpected : v.coerce field = .number (.ofInt n) ∨ v.coerce field = .text (toString n) := by
    rcases hv with rfl | rfl
    · have hexact := Nat.le_trans (Nat.le_of_lt hn) plainBound_le_exactBound
      exact .inl (Literal.coerce_bare_toString field hexact)
    · exact .inr (Literal.coerce_string_toString field n)
  have hcompares actual (hfield : e.field? field = some actual) :=
    FieldValue.compares_integer (Entry.isNumeric_of_field? hfield) hn hexpected
  rw [Holds, Holds]
  exact ⟨exists_congr fun actual => and_congr_right fun h => (hcompares actual h).1,
    exists_congr fun actual => and_congr_right fun h => (hcompares actual h).2⟩

namespace Source

/-- An integer of at most fifteen digits is a number if it stands in a query by itself. To put it in
    quotes makes no difference to which entries have a field equal to it, and to which have one that
    is not, whatever the fields hold and whether there is an index or not. -/
theorem answer_quoted_integer (field : String) {n : Int} (hn : n.natAbs < 10 ^ 15)
    (entries : Array Entry) (index : Option Index)
    (hindex : ∀ x ∈ index, x.Follows entries.toList) (i : Nat) :
    let s : Source := ⟨entries, index⟩
    let bare : Literal := .bare (toString n)
    let quoted : Literal := .string (toString n)
    bare = ⟨toString n, .number⟩ ∧
      (i ∈ (s.answer (.compare field .eq bare)).positions ↔
        i ∈ (s.answer (.compare field .eq quoted)).positions) ∧
      (i ∈ (s.answer (.compare field .ne bare)).positions ↔
        i ∈ (s.answer (.compare field .ne quoted)).positions) := by
  intro s bare quoted
  have hs : s.UpToDate := hindex
  have hexact : n.natAbs ≤ exactBound := Nat.le_trans (Nat.le_of_lt hn) plainBound_le_exactBound
  have hbare e := Query.holds_integer e field hn (v := bare) (.inl rfl)
  have hquoted e := Query.holds_integer e field hn (v := quoted) (.inr rfl)
  simp only [hs.mem_answer]
  exact ⟨Literal.bare_toString hexact,
    exists_congr fun e => and_congr_right fun _ => (hbare e).1.trans (hquoted e).1.symm,
    exists_congr fun e => and_congr_right fun _ => (hbare e).2.trans (hquoted e).2.symm⟩

/-- A number, its text, a truth value, and a text of the same value that is not how it is shown. -/
theorem answer_quoted_integer_mixed :
    let a : Entry := .unknownJson (.object [("n", .integer (-7))])
    let b : Entry := .unknownJson (.object [("n", .string "-7")])
    let c : Entry := .unknownJson (.object [("n", .bool true)])
    let d : Entry := .unknownJson (.object [("n", .string "-7.0")])
    let x := ((Index.empty {}).build [a]).addBatch [b, c, d] 1
    let s : Source := ⟨#[a, b, c, d], some x⟩
    let bare : Literal := .bare (toString (-7 : Int))
    let quoted : Literal := .string (toString (-7 : Int))
    (-7 : Int).natAbs < 10 ^ 15 ∧ x.Follows [a, b, c, d] ∧ bare = ⟨"-7", .number⟩ ∧
      (s.answer (.compare "n" .eq quoted)).positions = [0, 1] ∧
      0 ∈ (s.answer (.compare "n" .eq bare)).positions ∧
      1 ∈ (s.answer (.compare "n" .eq bare)).positions ∧
      2 ∉ (s.answer (.compare "n" .eq bare)).positions ∧
      3 ∈ (s.answer (.compare "n" .ne quoted)).positions ∧
      3 ∈ (s.answer (.compare "n" .ne bare)).positions := by
  intro a b c d x s bare quoted
  have hn : (-7 : Int).natAbs < 10 ^ 15 := by decide
  have hx : x.Follows [a, b, c, d] := .addBatch (.build (.empty {}) [a]) [b, c, d]
  have hindex : ∀ y ∈ some x, y.Follows [a, b, c, d] := fun y hy => Option.mem_some.1 hy ▸ hx
  have heq : (s.answer (.compare "n" .eq quoted)).positions = [0, 1] := by decide +kernel
  have hne : 3 ∈ (s.answer (.compare "n" .ne quoted)).positions := by decide +kernel
  have h := answer_quoted_integer "n" hn #[a, b, c, d] (some x) hindex
  have hmem : ∀ i, i ∈ (s.answer (.compare "n" .eq bare)).positions ↔ i ∈ [0, 1] := fun i =>
    heq ▸ (h i).2.1
  exact ⟨hn, hx, (h 0).1, heq, (hmem 0).2 (by decide), (hmem 1).2 (by decide),
    mt (hmem 2).1 (by decide), hne, (h 3).2.2.2 hne⟩

end Source

end Logbook
