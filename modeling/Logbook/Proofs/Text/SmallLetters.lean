import Logbook.Text.Case

/-!
# Small letters stay small

A text in small letters stays as it is when it is written in small letters again (`lower_lower`).
Whether a character is changed is a matter of the table of capitals alone, but for the dotted
capital I and the capital sigma; so it is enough that no small letter that the table gives is a
capital of the table.

The table is checked run against run: the small letters of a run lie outside of every run of
capitals, or between its members (`CaseRun.clears`).
-/

namespace Logbook.Text

/-- Whether no small letter of the run `r` is a capital of the run `s`: they lie apart, or the small
    letters lie between capitals that stand two code points apart. The table has some 36000 pairs of
    runs, so this is put in terms of the functions that are quick to evaluate. -/
def CaseRun.clears (r s : CaseRun) : Bool :=
  Nat.blt (r.image + (r.last - r.first)) s.first || Nat.blt s.last r.image ||
    (Nat.beq s.step 2 && (Nat.beq r.step 2 || Nat.beq r.first r.last) &&
      Nat.beq ((r.image + s.first) % 2) 1)

theorem capitals_clear : (capitals.all fun r => capitals.all r.clears) = true := by
  decide +kernel

/-- The small letters of the run are characters other than the dotted capital I. -/
def CaseRun.IsProper (r : CaseRun) : Prop :=
  0x41 ≤ r.first ∧ (r.image + (r.last - r.first) < 0xD800 ∨ 0xDFFF < r.image) ∧
    r.image + (r.last - r.first) < 0x110000 ∧
    (r.image + (r.last - r.first) < 0x130 ∨ 0x130 < r.image)

instance (r : CaseRun) : Decidable r.IsProper :=
  inferInstanceAs (Decidable (_ ∧ _ ∧ _ ∧ _))

theorem capitals_proper : ∀ r ∈ capitals, r.IsProper := by
  decide +kernel

theorem CaseRun.not_holds_of_clears {r s : CaseRun} (h : r.clears s) {code : Nat}
    (hr : r.holds code) : ¬s.holds (r.image + (code - r.first)) := by
  simp only [CaseRun.clears, CaseRun.holds, Bool.and_eq_true, Bool.or_eq_true, Nat.blt_eq,
    Nat.beq_eq, decide_eq_true_eq] at h hr ⊢
  rintro ⟨⟨hfirst, hlast⟩, hstep⟩
  rcases h with (h | h) | ⟨⟨hs, hr'⟩, hodd⟩
  · omega
  · omega
  · rw [hs] at hstep
    rcases hr' with hr' | hr'
    · rw [hr'] at hr
      omega
    · omega

/-- The character is none of those that are written differently in small letters. -/
def IsSmall (c : Char) : Prop :=
  c.toNat ≠ 0x130 ∧ ∀ r ∈ capitals, ¬r.holds c.toNat

theorem isSmall_iff {c : Char} :
    IsSmall c ↔ c.toNat ≠ 0x130 ∧ (capitals.all fun r => !r.holds c.toNat) = true := by
  rw [IsSmall, List.all_eq_true]
  simp only [Bool.not_eq_true', Bool.not_eq_true]

theorem smallCode_cases (code : Nat) :
    (smallCode code = code ∧ (code < 0x41 ∨ ∀ r ∈ capitals, ¬r.holds code)) ∨
      ∃ r ∈ capitals, r.holds code ∧ smallCode code = r.image + (code - r.first) := by
  unfold smallCode
  split
  · exact .inl ⟨rfl, .inl ‹_›⟩
  · split
    · next r hr =>
      have hcode := List.find?_some hr
      exact .inr ⟨r, List.mem_of_find?_eq_some hr, hcode, rfl⟩
    · next hr => exact .inl ⟨rfl, .inr (List.find?_eq_none.1 hr)⟩

theorem not_holds_smallCode (code : Nat) : ∀ s ∈ capitals, ¬s.holds (smallCode code) := by
  intro s hs
  rcases smallCode_cases code with ⟨he, hlow | hnone⟩ | ⟨r, hr, hcode, he⟩
  · -- The table is not asked below its first capital.
    have := (capitals_proper s hs).1
    simp only [he, CaseRun.holds, Bool.and_eq_true, decide_eq_true_eq]
    omega
  · rw [he]
    exact hnone s hs
  · rw [he]
    have hclear := List.all_eq_true.1 (List.all_eq_true.1 capitals_clear r hr) s hs
    exact CaseRun.not_holds_of_clears hclear hcode

theorem smallCode_of_not_holds {code : Nat} (h : ∀ r ∈ capitals, ¬r.holds code) :
    smallCode code = code := by
  rcases smallCode_cases code with ⟨he, -⟩ | ⟨r, hr, hcode, -⟩
  · exact he
  · exact absurd hcode (h r hr)

theorem isValidChar_smallCode {code : Nat} (h : code.isValidChar) :
    (smallCode code).isValidChar := by
  rcases smallCode_cases code with ⟨he, -⟩ | ⟨r, hr, hcode, he⟩
  · rwa [he]
  · have := capitals_proper r hr
    simp only [CaseRun.IsProper, CaseRun.holds, Bool.and_eq_true, decide_eq_true_eq,
      Nat.isValidChar] at *
    omega

theorem smallCode_ne_dotted {code : Nat} (h : code ≠ 0x130) : smallCode code ≠ 0x130 := by
  rcases smallCode_cases code with ⟨he, -⟩ | ⟨r, hr, hcode, he⟩
  · rwa [he]
  · have := capitals_proper r hr
    simp only [CaseRun.IsProper, CaseRun.holds, Bool.and_eq_true, decide_eq_true_eq] at *
    omega

theorem toLower_eq_smallCode : ∀ n < 0x80, (Char.ofNat n).toLower = Char.ofNat (smallCode n) := by
  decide +kernel

/-- ASCII letters follow the table as well. -/
theorem lowerChar_eq {c : Char} (h : c.toNat ≠ 0x130) :
    lowerChar c = [Char.ofNat (smallCode c.toNat)] := by
  unfold lowerChar
  rw [if_neg h]
  split
  · rw [← toLower_eq_smallCode _ ‹_›, Char.ofNat_toNat]
  · rfl

theorem toNat_ofNat_smallCode (c : Char) :
    (Char.ofNat (smallCode c.toNat)).toNat = smallCode c.toNat := by
  have h : (smallCode c.toNat).isValidChar := isValidChar_smallCode c.valid
  rw [Char.ofNat, dif_pos h]
  rfl

theorem IsSmall.lowerChar_eq_self {c : Char} (h : IsSmall c) : lowerChar c = [c] := by
  rw [lowerChar_eq h.1, smallCode_of_not_holds h.2, Char.ofNat_toNat]

theorem IsSmall.ne_sigma {c : Char} (h : IsSmall c) : c.toNat ≠ 0x3A3 := by
  intro hc
  have : ∃ r ∈ capitals, r.holds 0x3A3 := by decide +kernel
  obtain ⟨r, hr, hs⟩ := this
  exact h.2 r hr (hc ▸ hs)

theorem isSmall_of_mem_lowerChar {c d : Char} (h : d ∈ lowerChar c) : IsSmall d := by
  by_cases hc : c.toNat = 0x130
  · -- The dotted capital I gives a small i and a dot, of which the table knows nothing.
    rw [lowerChar, if_neg (by omega), if_pos hc] at h
    rw [List.mem_cons, List.mem_singleton] at h
    rcases h with rfl | rfl
    · exact isSmall_iff.2 ⟨by decide, by decide +kernel⟩
    · exact isSmall_iff.2 ⟨by decide, by decide +kernel⟩
  · rw [lowerChar_eq hc, List.mem_singleton] at h
    subst h
    rw [IsSmall, toNat_ofNat_smallCode]
    exact ⟨smallCode_ne_dotted hc, not_holds_smallCode _⟩

theorem isSmall_lowerSigma (before after : List Char) : IsSmall (lowerSigma before after) := by
  unfold lowerSigma
  split
  · exact isSmall_iff.2 ⟨by decide, by decide +kernel⟩
  · exact isSmall_iff.2 ⟨by decide, by decide +kernel⟩

theorem isSmall_of_mem_lowerAfter {cs before : List Char} {d : Char}
    (h : d ∈ lowerAfter before cs) : IsSmall d := by
  induction cs generalizing before with
  | nil => exact absurd h List.not_mem_nil
  | cons c cs ih =>
    rw [lowerAfter] at h
    split at h
    · rcases List.mem_cons.1 h with rfl | h
      · exact isSmall_lowerSigma _ _
      · exact ih h
    · rcases List.mem_append.1 h with h | h
      · exact isSmall_of_mem_lowerChar h
      · exact ih h

theorem lowerAfter_of_forall_isSmall {cs : List Char} (h : ∀ c ∈ cs, IsSmall c)
    (before : List Char) : lowerAfter before cs = cs := by
  induction cs generalizing before with
  | nil => rfl
  | cons c cs ih =>
    have hc := h c List.mem_cons_self
    rw [lowerAfter, if_neg hc.ne_sigma, hc.lowerChar_eq_self,
      ih fun d hd => h d (List.mem_cons_of_mem _ hd)]
    rfl

/-- A text in small letters is its own small form. -/
theorem lower_lower (cs : List Char) : lower (lower cs) = lower cs :=
  lowerAfter_of_forall_isSmall (fun _ h => isSmall_of_mem_lowerAfter h) []

end Logbook.Text
