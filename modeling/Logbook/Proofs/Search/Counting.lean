import Mathlib.Algebra.BigOperators.Group.List.Basic
import Mathlib.Data.UInt
import Logbook.Proofs.Search.Points

/-!
# Counting in 32 bits

Points have 32 bits. If what a text is worth fits in these, it is what they count
(`relevance_eq`): no sum on the way is larger than the last one. Whether it fits can be told on the
way as well, by giving up as soon as a sum or a product does not fit (`relevance32?`,
`relevance32?_eq`). `relevance_agrees` compares the scorer with the matcher, for so many terms and
so long a text that the points are certain to fit.

Where sums wrap around, points are still those of each phrase and of each stem by itself, put
together (`relevance_eq_sum`), so they do not hang on the order of the terms.
-/

namespace Logbook

variable {s : Settings} {t : SearchTerms} {text token phrase : List Char}

/-! ## Sums that wrap around -/

theorem foldl_plus_eq {α : Type} (f : α → UInt32) (l : List α) (a : UInt32) :
    l.foldl (fun b x => b + f x) a = a + (l.map f).sum := by
  induction l generalizing a with
  | nil => exact (add_zero a).symm
  | cons x l ih => rw [List.foldl_cons, ih, List.map_cons, List.sum_cons, add_assoc]

theorem ofNat_sum (l : List Nat) : UInt32.ofNat l.sum = (l.map UInt32.ofNat).sum := by
  induction l with
  | nil => rfl
  | cons n l ih => rw [List.sum_cons, UInt32.ofNat_add, ih, List.map_cons, List.sum_cons]

theorem ofNat_ite (p : Prop) [Decidable p] (a : UInt32) :
    UInt32.ofNat (if p then a.toNat else 0) = if p then a else 0 := by
  split
  · exact UInt32.ofNat_toNat
  · rfl

theorem relevance_eq_sum (s : Settings) (text : List Char) (t : SearchTerms) :
    relevance s text t =
      (t.phrases.map (phrasePointsIn text)).sum + (t.tokens.map (tokenPoints s text)).sum := by
  rw [relevance, foldl_plus_eq, foldl_plus_eq, zero_add]

/-! ## Points that fit -/

theorem phrasePointsIn_eq (text phrase : List Char) :
    phrasePointsIn text phrase = .ofNat (phraseWorth text phrase) :=
  (ofNat_ite _ _).symm

theorem tokenPoints_eq (h : tokenWorth s text token < UInt32.size) :
    tokenPoints s text token = .ofNat (tokenWorth s text token) := by
  have hlarge := length_places_le_tokenWorth s text token
  rw [tokenWorth] at hlarge h ⊢
  rw [tokenPoints]
  generalize places token none 0 text = found at hlarge h ⊢
  -- The places are fewer than the points, so their number fits as well.
  have hcount : UInt32.ofNat found.length = 0 ↔ found.isEmpty := by
    have hfits : found.length < UInt32.size := by omega
    rw [← UInt32.toNat_inj, UInt32.toNat_ofNat_of_lt' hfits, UInt32.toNat_zero, List.isEmpty_iff,
      List.length_eq_zero_iff]
  simp only [hcount]
  split
  · exact (ofNat_ite _ _).symm
  · rw [UInt32.ofNat_add, UInt32.ofNat_add, UInt32.ofNat_mul, UInt32.ofNat_toNat, ofNat_ite,
      ofNat_ite]

theorem tokenWorth_le_textWorth (h : token ∈ t.tokens) :
    tokenWorth s text token ≤ textWorth s text t :=
  (List.le_sum_of_mem (List.mem_map_of_mem h)).trans (Nat.le_add_left _ _)

theorem relevance_eq (h : textWorth s text t < UInt32.size) :
    relevance s text t = .ofNat (textWorth s text t) := by
  have htokens : ∀ token ∈ t.tokens,
      tokenPoints s text token = .ofNat (tokenWorth s text token) := fun token htoken =>
    tokenPoints_eq (Nat.lt_of_le_of_lt (tokenWorth_le_textWorth htoken) h)
  rw [relevance_eq_sum, textWorth, UInt32.ofNat_add, ofNat_sum, ofNat_sum, List.map_map,
    List.map_map, List.map_congr_left htokens,
    List.map_congr_left fun phrase _ => phrasePointsIn_eq text phrase]
  rfl

theorem toNat_relevance (h : textWorth s text t < UInt32.size) :
    (relevance s text t).toNat = textWorth s text t := by
  rw [relevance_eq h, UInt32.toNat_ofNat_of_lt' h]

/-! ## Giving up what does not fit -/

/-- A number in 32 bits, if it fits. -/
def fits32? (n : Nat) : Option UInt32 :=
  if n < UInt32.size then some (.ofNat n) else none

/-- The sum with a number, if it fits. -/
def plus32? (a : UInt32) (n : Nat) : Option UInt32 :=
  fits32? (a.toNat + n)

/-- The sum with a number that counts under a condition, if it fits. -/
def plusIf32? (p : Bool) (a : UInt32) (n : Nat) : Option UInt32 :=
  if p then plus32? a n else some a

/-- The points so far with those of a stem, if they fit. -/
def plusToken32? (s : Settings) (text : List Char) (points : UInt32) (token : List Char) :
    Option UInt32 := do
  let found := places token none 0 text
  let count ← found.foldlM (fun count _ => plus32? count 1) 0
  if 0 < count then
    let points ← plus32? points (← fits32? (placePoints.toNat * count.toNat)).toNat
    let points ← plusIf32? (found.any fun c => !c.any Text.isAlphanumeric) points
      boundaryPoints.toNat
    plusIf32? (token.isPrefixOf text) points startPoints.toNat
  else plusIf32? (hasNear s text token) points nearPoints.toNat

/-- The points of a text, if these and all on the way fit. -/
def relevance32? (s : Settings) (text : List Char) (t : SearchTerms) : Option UInt32 := do
  let points ← t.phrases.foldlM
    (fun points phrase => plusIf32? (Text.hasInfix phrase text) points phrasePoints.toNat) 0
  t.tokens.foldlM (plusToken32? s text) points

theorem fits32?_eq_some {n : Nat} (h : n < UInt32.size) : fits32? n = some (.ofNat n) :=
  if_pos h

theorem fits32?_eq_none {n : Nat} (h : UInt32.size ≤ n) : fits32? n = none :=
  if_neg (Nat.not_lt.2 h)

theorem plus32?_zero (a : UInt32) : plus32? a 0 = some a := by
  rw [plus32?, Nat.add_zero, fits32?_eq_some a.toNat_lt_size, UInt32.ofNat_toNat]

theorem zero_plus32? (n : Nat) : plus32? 0 n = fits32? n := by
  rw [plus32?, UInt32.toNat_zero, Nat.zero_add]

/-- One sum after the other fits if the last one does. -/
theorem bind_plus32? (a : UInt32) (m n : Nat) :
    ((plus32? a m).bind fun b => plus32? b n) = plus32? a (m + n) := by
  rcases Nat.lt_or_ge (a.toNat + m) UInt32.size with hfits | hlarge
  · rw [plus32?, fits32?_eq_some hfits, Option.bind_some, plus32?, plus32?,
      UInt32.toNat_ofNat_of_lt' hfits, Nat.add_assoc]
  · rw [plus32?, plus32?, fits32?_eq_none hlarge, fits32?_eq_none (by omega), Option.bind_none]

theorem bind_fits32?_plus32? (a : UInt32) (n : Nat) :
    ((fits32? n).bind fun b => plus32? a b.toNat) = plus32? a n := by
  rcases Nat.lt_or_ge n UInt32.size with hfits | hlarge
  · rw [fits32?_eq_some hfits, Option.bind_some, UInt32.toNat_ofNat_of_lt' hfits]
  · rw [plus32?, fits32?_eq_none hlarge, fits32?_eq_none (by omega), Option.bind_none]

theorem plusIf32?_eq (p : Bool) (a : UInt32) (n : Nat) :
    plusIf32? p a n = plus32? a (if p then n else 0) := by
  rw [plusIf32?]
  split
  · rfl
  · rw [plus32?_zero]

theorem foldlM_plus32? {α : Type} (f : α → Nat) (l : List α) (a : UInt32) :
    l.foldlM (fun b x => plus32? b (f x)) a = plus32? a (l.map f).sum := by
  induction l generalizing a with
  | nil => exact (plus32?_zero a).symm
  | cons x l ih =>
    rw [List.foldlM_cons, List.map_cons, List.sum_cons, ← bind_plus32?]
    simp only [ih]
    rfl

theorem plusToken32?_eq (s : Settings) (text : List Char) (points : UInt32) (token : List Char) :
    plusToken32? s text points token = plus32? points (tokenWorth s text token) := by
  have hlarge := length_places_le_tokenWorth s text token
  rw [tokenWorth] at hlarge ⊢
  rw [plusToken32?]
  generalize places token none 0 text = found at hlarge ⊢
  have hcount : found.foldlM (fun count _ => plus32? count 1) 0 = fits32? found.length := by
    rw [foldlM_plus32? fun _ => 1, zero_plus32?, List.map_const', List.sum_replicate_nat,
      Nat.mul_one]
  dsimp only [Option.bind_eq_bind] at hlarge ⊢
  rw [hcount]
  rcases Nat.lt_or_ge found.length UInt32.size with hfits | hmany
  · rw [fits32?_eq_some hfits, Option.bind_some, UInt32.toNat_ofNat_of_lt' hfits]
    have hpos : 0 < UInt32.ofNat found.length ↔ found ≠ [] := by
      rw [UInt32.lt_iff_toNat_lt, UInt32.toNat_ofNat_of_lt' hfits, ← List.length_pos_iff]
      rfl
    by_cases hnone : found = []
    · subst hnone
      rw [if_neg (hpos.not.2 (not_not.2 rfl)), plusIf32?_eq, List.isEmpty_nil, if_pos rfl]
    · rw [if_pos (hpos.2 hnone), if_neg (by simpa using hnone), ← Option.bind_assoc,
        bind_fits32?_plus32?]
      simp only [plusIf32?_eq, bind_plus32?, Nat.add_assoc]
  · -- So many places are worth too much.
    rw [fits32?_eq_none hmany, Option.bind_none, plus32?, fits32?_eq_none]
    omega

theorem relevance32?_eq (s : Settings) (text : List Char) (t : SearchTerms) :
    relevance32? s text t = fits32? (textWorth s text t) := by
  have hphrase :
      (fun points phrase => plusIf32? (Text.hasInfix phrase text) points phrasePoints.toNat) =
        fun points phrase => plus32? points (phraseWorth text phrase) := by
    funext points phrase
    exact plusIf32?_eq _ points _
  have hstep : plusToken32? s text =
      fun points token => plus32? points (tokenWorth s text token) := by
    funext points token
    exact plusToken32?_eq s text points token
  rw [relevance32?, hstep, hphrase, textWorth, ← zero_plus32?, ← bind_plus32?]
  simp only [foldlM_plus32?]
  rfl

/-! ## The scorer and the matcher -/

namespace SearchTerms

/-- A phrase as the only term. -/
def onlyPhrase (phrase : List Char) : SearchTerms :=
  ⟨[], [phrase], false⟩

/-- A stem as the only term. -/
def onlyToken (token : List Char) : SearchTerms :=
  ⟨[token], [], false⟩

end SearchTerms

theorem relevance_onlyPhrase (s : Settings) (text phrase : List Char) :
    relevance s text (.onlyPhrase phrase) = phrasePointsIn text phrase :=
  zero_add _

theorem relevance_onlyToken (s : Settings) (text token : List Char) :
    relevance s text (.onlyToken token) = tokenPoints s text token :=
  zero_add _

/-- The scorer and the matcher agree on any terms of which no stem is empty, if their number and the
    length of the text are such that the points fit in 32 bits. -/
theorem relevance_agrees (s : Settings) (htokens : ∀ token ∈ t.tokens, token ≠ [])
    (hbound : 100 * t.phrases.length +
      t.tokens.length * (10 * (Text.byteLength text + 1) + 35) < 2 ^ 32) :
    relevance32? s text t = some (relevance s text t) ∧
    (relevance s text t).toNat =
      (t.phrases.map fun phrase => (relevance s text (.onlyPhrase phrase)).toNat).sum +
        (t.tokens.map fun token => (relevance s text (.onlyToken token)).toNat).sum ∧
    (matchesTerms s text t ↔
      (∀ phrase ∈ t.phrases, 0 < relevance s text (.onlyPhrase phrase)) ∧
        ∀ token ∈ t.tokens, 0 < relevance s text (.onlyToken token)) ∧
    (matchesTerms s text t →
      100 * t.phrases.length + 5 * t.tokens.length ≤ (relevance s text t).toNat) := by
  have hfits : textWorth s text t < UInt32.size :=
    Nat.lt_of_le_of_lt (textWorth_le s text t) hbound
  have hphrase : ∀ phrase,
      (relevance s text (.onlyPhrase phrase)).toNat = phraseWorth text phrase := fun phrase => by
    rw [relevance_onlyPhrase, phrasePointsIn_eq, UInt32.toNat_ofNat_of_lt'
      (Nat.lt_of_le_of_lt (phraseWorth_le text phrase) (by decide))]
  have htoken : ∀ token ∈ t.tokens,
      (relevance s text (.onlyToken token)).toNat = tokenWorth s text token := fun token hmem => by
    have hlt := Nat.lt_of_le_of_lt (tokenWorth_le_textWorth hmem) hfits
    rw [relevance_onlyToken, tokenPoints_eq hlt, UInt32.toNat_ofNat_of_lt' hlt]
  refine ⟨?_, ?_, ?_, fun h => ?_⟩
  · rw [relevance32?_eq, fits32?_eq_some hfits, relevance_eq hfits]
  · rw [toNat_relevance hfits, List.map_congr_left fun phrase _ => hphrase phrase,
      List.map_congr_left htoken]
    rfl
  · simp only [UInt32.lt_iff_toNat_lt, UInt32.toNat_zero, hphrase, phraseWorth_pos_iff]
    rw [matchesTerms, Bool.and_eq_true, List.all_eq_true, List.all_eq_true]
    refine and_congr_right fun _ => forall₂_congr fun token hmem => ?_
    rw [htoken token hmem, tokenWorth_pos_iff (htokens token hmem)]
  · rw [toNat_relevance hfits]
    exact le_textWorth htokens h

/-- The phrase stands in the text, and the stem is near a word of it. -/
theorem relevance_agrees_near :
    let text := "payment card declined".toList
    let t := SearchTerms.ofText "paymnt \"card declined\""
    (∀ token ∈ t.tokens, token ≠ []) ∧
      100 * t.phrases.length + t.tokens.length * (10 * (Text.byteLength text + 1) + 35) < 2 ^ 32 ∧
      relevance32? {} text t = some (relevance {} text t) ∧
      (relevance {} text t).toNat = 100 + 5 ∧ matchesTerms {} text t ∧
      100 * t.phrases.length + 5 * t.tokens.length ≤ (relevance {} text t).toNat := by
  intro text t
  have htokens : ∀ token ∈ t.tokens, token ≠ [] := by decide +kernel
  have hbound : 100 * t.phrases.length +
      t.tokens.length * (10 * (Text.byteLength text + 1) + 35) < 2 ^ 32 := by decide +kernel
  obtain ⟨hcount, hsum, hmatch, hle⟩ := relevance_agrees ({} : Settings) htokens hbound
  have hmatches : matchesTerms {} text t := hmatch.2 (by decide +kernel)
  exact ⟨htokens, hbound, hcount, hsum.trans (by decide +kernel), hmatches, hle hmatches⟩

end Logbook
