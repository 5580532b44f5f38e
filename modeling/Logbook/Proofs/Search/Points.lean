import Mathlib.Algebra.Group.Action.Defs
import Mathlib.Algebra.Order.BigOperators.Group.List
import Mathlib.Algebra.Order.Ring.Nat
import Logbook.Proofs.Query.Spans
import Logbook.Proofs.Text.Finding
import Logbook.Search.Rank

/-!
# Points

What the terms that stand in a text are worth, as natural numbers: each phrase (`phraseWorth`), each
stem (`tokenWorth`), and all terms together (`textWorth`). `Counting` compares this with the points
that are counted in 32 bits.

Whether a text matches (`matchesTerms`) and what it is worth are told by two functions that walk
through it on their own: one asks whether a stem stands there, the other counts the places where it
does. They agree on every stem that has a character (`tokenWorth_pos_iff`). How much a text is worth
at most is told by the number of the terms and the length of the text (`textWorth_le`), and how much
at least, if it matches, by the number of the terms (`le_textWorth`).
-/

namespace Logbook

variable {s : Settings} {t : SearchTerms} {text token phrase : List Char}

/-! ## The points of a stem -/

/-- A stem has a place wherever it stands. -/
theorem places_eq_nil_iff (h : token ≠ []) {before : Option Char} :
    places token before 0 text = [] ↔ ¬token <:+: text := by
  induction text generalizing before with
  | nil => simpa [places] using h
  | cons c cs ih =>
    rw [places, List.infix_cons_iff, ← List.isPrefixOf_iff_prefix]
    split
    next hhere => simp [hhere]
    next hhere => simp [hhere, ih]

/-- A stem that stands nowhere can only match by a word near it. -/
theorem hasNear_of_matchesToken (h : token ≠ []) (hmatch : matchesToken s text token)
    (hnone : places token none 0 text = []) : hasNear s text token := by
  rw [matchesToken, Bool.or_eq_true, Text.hasInfix_iff] at hmatch
  exact hmatch.resolve_left ((places_eq_nil_iff h).1 hnone)

theorem length_places_le (token : List Char) (before : Option Char) (skip : Nat)
    (text : List Char) : (places token before skip text).length ≤ text.length := by
  induction text generalizing before skip with
  | nil => exact Nat.le_refl 0
  | cons c cs ih =>
    cases skip with
    | zero =>
      rw [places]
      split
      · exact Nat.succ_le_succ (ih _ _)
      · exact Nat.le_succ_of_le (ih _ _)
    | succ skip =>
      rw [places]
      exact Nat.le_succ_of_le (ih _ _)

/-- What a stem is worth in a text. -/
def tokenWorth (s : Settings) (text token : List Char) : Nat :=
  let found := places token none 0 text
  if found.isEmpty then (if hasNear s text token then nearPoints.toNat else 0)
  else
    placePoints.toNat * found.length +
      (if found.any fun c => !c.any Text.isAlphanumeric then boundaryPoints.toNat else 0) +
      (if token.isPrefixOf text then startPoints.toNat else 0)

@[simp]
theorem toNat_phrasePoints : phrasePoints.toNat = 100 := rfl

@[simp]
theorem toNat_placePoints : placePoints.toNat = 10 := rfl

@[simp]
theorem toNat_boundaryPoints : boundaryPoints.toNat = 20 := rfl

@[simp]
theorem toNat_startPoints : startPoints.toNat = 15 := rfl

@[simp]
theorem toNat_nearPoints : nearPoints.toNat = 5 := rfl

@[simp]
theorem toNat_unknownPoints : unknownPoints.toNat = 30 := rfl

theorem length_places_le_tokenWorth (s : Settings) (text token : List Char) :
    10 * (places token none 0 text).length ≤ tokenWorth s text token := by
  rw [tokenWorth, toNat_placePoints]
  split
  next hnone => simp [List.isEmpty_iff.1 hnone]
  next => omega

/-- A stem that matches is worth at least as much as a word near it. -/
theorem nearPoints_le_tokenWorth (h : token ≠ []) (hmatch : matchesToken s text token) :
    5 ≤ tokenWorth s text token := by
  by_cases hnone : places token none 0 text = []
  · have hnear := hasNear_of_matchesToken h hmatch hnone
    exact Nat.le_of_eq (by rw [tokenWorth, hnone, List.isEmpty_nil, if_pos rfl, if_pos hnear]; rfl)
  · -- There is a place, which is worth more by itself.
    have hpos := List.length_pos_iff.2 hnone
    have hplaces := length_places_le_tokenWorth s text token
    omega

/-- The scorer and the matcher agree on a stem. -/
theorem tokenWorth_pos_iff (h : token ≠ []) :
    0 < tokenWorth s text token ↔ matchesToken s text token := by
  refine ⟨fun hpos => ?_, fun hmatch =>
    Nat.lt_of_lt_of_le (by decide) (nearPoints_le_tokenWorth h hmatch)⟩
  by_contra hmatch
  rw [matchesToken, Bool.or_eq_true, Text.hasInfix_iff, not_or] at hmatch
  rw [tokenWorth, (places_eq_nil_iff h).2 hmatch.1, List.isEmpty_nil, if_pos rfl,
    if_neg hmatch.2] at hpos
  exact Nat.lt_irrefl 0 hpos

theorem length_le_byteLength (text : List Char) : text.length ≤ Text.byteLength text := by
  induction text with
  | nil => exact Nat.le_refl 0
  | cons c cs ih =>
    have := c.utf8Size_pos
    rw [List.length_cons, Text.byteLength_cons]
    omega

theorem tokenWorth_le (s : Settings) (text token : List Char) :
    tokenWorth s text token ≤ 10 * (Text.byteLength text + 1) + 35 := by
  have hplaces := length_places_le token none 0 text
  have hbytes := length_le_byteLength text
  rw [tokenWorth, toNat_placePoints, toNat_boundaryPoints, toNat_startPoints, toNat_nearPoints]
  split
  · split <;> omega
  · split <;> split <;> omega

/-! ## All terms -/

/-- What a phrase is worth in a text. -/
def phraseWorth (text phrase : List Char) : Nat :=
  if Text.hasInfix phrase text then phrasePoints.toNat else 0

/-- What a text is worth. -/
def textWorth (s : Settings) (text : List Char) (t : SearchTerms) : Nat :=
  (t.phrases.map (phraseWorth text)).sum + (t.tokens.map (tokenWorth s text)).sum

theorem phraseWorth_le (text phrase : List Char) : phraseWorth text phrase ≤ 100 := by
  rw [phraseWorth, toNat_phrasePoints]
  split
  · exact Nat.le_refl _
  · exact Nat.zero_le _

theorem phraseWorth_pos_iff : 0 < phraseWorth text phrase ↔ Text.hasInfix phrase text := by
  rw [phraseWorth, toNat_phrasePoints]
  split
  next h => exact iff_of_true (by decide) h
  next h => exact iff_of_false (Nat.lt_irrefl 0) h

theorem textWorth_le (s : Settings) (text : List Char) (t : SearchTerms) :
    textWorth s text t ≤ 100 * t.phrases.length +
      t.tokens.length * (10 * (Text.byteLength text + 1) + 35) := by
  have hphrases := List.sum_le_card_nsmul (t.phrases.map (phraseWorth text)) 100
    (List.forall_mem_map.2 fun phrase _ => phraseWorth_le text phrase)
  have htokens := List.sum_le_card_nsmul (t.tokens.map (tokenWorth s text))
    (10 * (Text.byteLength text + 1) + 35)
    (List.forall_mem_map.2 fun token _ => tokenWorth_le s text token)
  rw [List.length_map, smul_eq_mul] at hphrases htokens
  rw [textWorth]
  omega

/-- Every term of a text that matches is worth something. -/
theorem le_textWorth (htokens : ∀ token ∈ t.tokens, token ≠ []) (h : matchesTerms s text t) :
    100 * t.phrases.length + 5 * t.tokens.length ≤ textWorth s text t := by
  rw [matchesTerms, Bool.and_eq_true, List.all_eq_true, List.all_eq_true] at h
  have hphrases := List.card_nsmul_le_sum (t.phrases.map (phraseWorth text)) 100
    (List.forall_mem_map.2 fun phrase hphrase => Nat.le_of_eq (if_pos (h.1 phrase hphrase)).symm)
  have hstems := List.card_nsmul_le_sum (t.tokens.map (tokenWorth s text)) 5
    (List.forall_mem_map.2 fun token htoken =>
      nearPoints_le_tokenWorth (htokens token htoken) (h.2 token htoken))
  rw [List.length_map, smul_eq_mul] at hphrases hstems
  rw [textWorth]
  omega

theorem textWorth_pos (htokens : ∀ token ∈ t.tokens, token ≠ []) (hterms : t.hasTerms)
    (h : matchesTerms s text t) : 0 < textWorth s text t := by
  have hle := le_textWorth htokens h
  rw [SearchTerms.hasTerms, Bool.or_eq_true] at hterms
  rcases hterms with hsome | hsome
  · have := List.length_pos_iff.2 (show t.tokens ≠ [] by simpa using hsome)
    omega
  · have := List.length_pos_iff.2 (show t.phrases ≠ [] by simpa using hsome)
    omega

end Logbook
