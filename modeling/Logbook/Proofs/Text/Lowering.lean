import Logbook.Proofs.Text.Quoting
import Logbook.Proofs.Text.SmallLetters
import Logbook.Search.Terms

/-!
# Small letters between separators

Of all characters only a capital sigma is written in small letters with a view to what stands around
it: it is asked for the next cased letter on either side. A character at which such a search ends
without one (`Text.IsBarrier`) keeps the two sides of it apart, and each of them is written in small
letters by itself (`Text.lower_append_cons`). Blanks and the double quote are such characters
(`Text.isBarrier`).

Other separators of words do not end the search, for an apostrophe or a colon is passed over. But
none of them is a capital or a small letter of one, so that separators in small letters were there
before (`Text.mem_of_mem_lower`).

Both are told by comparing the spans of these characters with the runs of the tables.
-/

namespace Logbook.Text

variable {c d : Char} {cs : List Char}

/-! ## Barriers -/

/-- A character that is no capital, and at which the search for a cased letter ends without one. -/
structure IsBarrier (c : Char) : Prop where
  isSmall : IsSmall c
  not_ignorable : ¬Property.caseIgnorable.contains c.toNat
  not_cased : ¬Property.cased.contains c.toNat

/-- What is asked of the first character that is not passed over, for any two classes: where the
    classes are tables, to evaluate them would take long. -/
theorem match_dropWhile (p q : Char → Bool) (cs : List Char) :
    (match cs.dropWhile p with | c :: _ => q c | [] => false) =
      (cs.dropWhile p).head?.any q := by
  cases cs.dropWhile p with
  | nil => rfl
  | cons c cs => rfl

theorem startsCased_eq_any (cs : List Char) : startsCased cs =
    ((cs.dropWhile fun c => Property.caseIgnorable.contains c.toNat).head?.any
      fun c => Property.cased.contains c.toNat) := by
  rw [startsCased]
  exact match_dropWhile _ _ cs

theorem startsCased_cons (c : Char) (cs : List Char) : startsCased (c :: cs) =
    if Property.caseIgnorable.contains c.toNat then startsCased cs
    else Property.cased.contains c.toNat := by
  rw [startsCased_eq_any, startsCased_eq_any, List.dropWhile_cons]
  by_cases hc : Property.caseIgnorable.contains c.toNat
  · rw [if_pos hc, if_pos hc]
  · rw [if_neg hc, if_neg hc, List.head?_cons, Option.any_some]

namespace IsBarrier

theorem startsCased_append (hc : IsBarrier c) (front back : List Char) :
    startsCased (front ++ c :: back) = startsCased front := by
  induction front with
  | nil =>
    rw [List.nil_append, startsCased_cons, if_neg hc.not_ignorable]
    exact Bool.eq_false_iff.2 hc.not_cased
  | cons d front ih => rw [List.cons_append, startsCased_cons, startsCased_cons, ih]

/-- What stands before a barrier does not matter behind it. -/
theorem lowerAfter_append (hc : IsBarrier c) (front back cs : List Char) :
    lowerAfter (front ++ c :: back) cs = lowerAfter front cs := by
  induction cs generalizing front with
  | nil => rfl
  | cons d cs ih =>
    -- Only a sigma looks back, and it sees no further than to the barrier.
    have hrest : lowerAfter (d :: (front ++ c :: back)) cs = lowerAfter (d :: front) cs :=
      ih (d :: front)
    rw [lowerAfter, lowerAfter, hrest, lowerSigma, lowerSigma, hc.startsCased_append]

theorem lowerAfter_append_cons (hc : IsBarrier c) (before front back : List Char) :
    lowerAfter before (front ++ c :: back) = lowerAfter before front ++ c :: lower back := by
  induction front generalizing before with
  | nil =>
    have hback : lowerAfter (c :: before) back = lower back := hc.lowerAfter_append [] before back
    rw [lowerAfter, List.nil_append, List.nil_append, lowerAfter, if_neg hc.isSmall.ne_sigma,
      hc.isSmall.lowerChar_eq_self, hback, List.singleton_append]
  | cons d front ih =>
    -- A sigma in front of the barrier sees no further than to it.
    rw [List.cons_append, lowerAfter, lowerAfter, ih, lowerSigma, lowerSigma,
      hc.startsCased_append]
    split
    · rfl
    · rw [List.append_assoc]

end IsBarrier

/-- The two sides of a barrier are written in small letters by themselves. -/
theorem lower_append_cons (hc : IsBarrier c) (front back : List Char) :
    lower (front ++ c :: back) = lower front ++ c :: lower back :=
  hc.lowerAfter_append_cons [] front back

theorem lowerChar_ne_nil (c : Char) : lowerChar c ≠ [] := by
  rw [lowerChar]
  split
  · exact List.cons_ne_nil _ _
  · split <;> exact List.cons_ne_nil _ _

theorem lower_ne_nil (h : cs ≠ []) : lower cs ≠ [] := by
  cases cs with
  | nil => exact absurd rfl h
  | cons c cs =>
    rw [lower, lowerAfter]
    split
    · exact List.cons_ne_nil _ _
    · exact List.append_ne_nil_of_left_ne_nil (lowerChar_ne_nil c) _

/-! ## Spans of code points -/

/-- The code points of the blanks and of the double quote. -/
def barrierSpans : List (Nat × Nat) :=
  [(9, 13), (0x20, 0x20), (0x22, 0x22), (0x85, 0x85), (0xA0, 0xA0), (0x1680, 0x1680),
    (0x2000, 0x200A), (0x2028, 0x2029), (0x202F, 0x202F), (0x205F, 0x205F), (0x3000, 0x3000)]

/-- The code points of the characters that separate words. -/
def separatorSpans : List (Nat × Nat) :=
  barrierSpans ++ [(0x21, 0x21), (0x27, 0x29), (0x2C, 0x2C), (0x3A, 0x3C), (0x3E, 0x3F),
    (0x5B, 0x5B), (0x5D, 0x5D), (0x7B, 0x7D)]

/-- Whether one of two spans ends before the other one begins. -/
def areApart (a b : Nat × Nat) : Bool :=
  Nat.blt a.2 b.1 || Nat.blt b.2 a.1

theorem not_mem_of_areApart {a b : Nat × Nat} (h : areApart a b) {code : Nat}
    (ha : a.1 ≤ code ∧ code ≤ a.2) : ¬(b.1 ≤ code ∧ code ≤ b.2) := by
  rw [areApart, Bool.or_eq_true, Nat.blt_eq, Nat.blt_eq] at h
  omega

theorem exists_barrierSpan (h : isBlank c ∨ c = '"') :
    ∃ span ∈ barrierSpans, span.1 ≤ c.toNat ∧ c.toNat ≤ span.2 := by
  simp only [barrierSpans, List.mem_cons, List.not_mem_nil, or_false, exists_eq_or_imp,
    exists_eq_left]
  rcases h with h | rfl
  · simp only [isBlank, Bool.or_eq_true, Bool.and_eq_true, decide_eq_true_eq] at h
    rcases h with ((((((((((rfl | h) | h) | h) | h) | h) | h) | h) | h) | h) | h)
    · decide
    all_goals omega
  · decide

theorem exists_separatorSpan (h : isSeparator c) :
    ∃ span ∈ separatorSpans, span.1 ≤ c.toNat ∧ c.toNat ≤ span.2 := by
  rw [isSeparator, Bool.or_eq_true, List.contains_iff_mem] at h
  rcases h with h | h
  · obtain ⟨span, hspan, hcode⟩ := exists_barrierSpan (.inl h)
    exact ⟨span, List.mem_append_left _ hspan, hcode⟩
  · have hsigns : ",;:!?()[]\x7b\x7d<>\"'|".toList.all fun c =>
        separatorSpans.any fun span => span.1 ≤ c.toNat && c.toNat ≤ span.2 := by decide
    obtain ⟨span, hspan, hcode⟩ := List.any_eq_true.1 (List.all_eq_true.1 hsigns c h)
    rw [Bool.and_eq_true, decide_eq_true_eq, decide_eq_true_eq] at hcode
    exact ⟨span, hspan, hcode⟩

/-! ### Barriers in the tables -/

open CodeRanges in
/-- A table is compared as the text that it is read from, without the array of its runs. -/
theorem forall_runs_of_ofText {s : CodeRanges} {p : Nat × Nat → Prop}
    (h : ∃ cs, s = .ofText (String.ofList cs) ∧ ∀ run ∈ runsFrom 0 ((words cs).map number), p run) :
    ∀ run ∈ s.runs.toList, p run := by
  obtain ⟨cs, rfl, hcs⟩ := h
  simpa only [ofText, numbers, String.toList_ofList] using hcs

set_option maxRecDepth 20000 in
theorem runs_cased_areApart :
    ∀ run ∈ Property.cased.runs.toList, barrierSpans.all (areApart run) :=
  forall_runs_of_ofText ⟨_, rfl, by decide +kernel⟩

set_option maxRecDepth 20000 in
theorem runs_caseIgnorable_areApart :
    ∀ run ∈ Property.caseIgnorable.runs.toList, barrierSpans.all (areApart run) :=
  forall_runs_of_ofText ⟨_, rfl, by decide +kernel⟩

/-- Whether neither the capitals of the run nor their small letters reach into a span. -/
def CaseRun.isApart (r : CaseRun) (span : Nat × Nat) : Bool :=
  areApart (r.first, r.last) span && areApart (r.image, r.image + (r.last - r.first)) span

theorem capitals_isApart : ∀ r ∈ capitals, separatorSpans.all r.isApart := by
  decide +kernel

theorem not_mem_separatorSpan {r : CaseRun} {code : Nat} {span : Nat × Nat} (hr : r ∈ capitals)
    (hholds : r.holds code) (hspan : span ∈ separatorSpans) :
    ¬(span.1 ≤ code ∧ code ≤ span.2) ∧
      ¬(span.1 ≤ r.image + (code - r.first) ∧ r.image + (code - r.first) ≤ span.2) := by
  have hapart := List.all_eq_true.1 (capitals_isApart r hr) span hspan
  rw [CaseRun.isApart, Bool.and_eq_true] at hapart
  simp only [CaseRun.holds, Bool.and_eq_true, decide_eq_true_eq] at hholds
  exact ⟨not_mem_of_areApart hapart.1 hholds.1,
    not_mem_of_areApart hapart.2 ⟨Nat.le_add_right _ _, by omega⟩⟩

theorem not_contains_of_areApart {s : CodeRanges} {code : Nat} {span : Nat × Nat}
    (hruns : ∀ run ∈ s.runs.toList, barrierSpans.all (areApart run)) (hspan : span ∈ barrierSpans)
    (hcode : span.1 ≤ code ∧ code ≤ span.2) : ¬s.contains code := by
  intro hcontains
  obtain ⟨run, hrun, hmem⟩ := CodeRanges.exists_run_of_contains hcontains
  exact not_mem_of_areApart (List.all_eq_true.1 (hruns run hrun) span hspan) hmem hcode

theorem isSeparator_of_isBlank (h : isBlank c) : isSeparator c := by
  rw [isSeparator, h, Bool.true_or]

theorem isSmall_of_isSeparator (h : isSeparator c) : IsSmall c := by
  obtain ⟨span, hspan, hcode⟩ := exists_separatorSpan h
  constructor
  · intro hdotted
    have hnone : ∀ span ∈ separatorSpans, ¬(span.1 ≤ 0x130 ∧ 0x130 ≤ span.2) := by decide
    exact hnone span hspan (hdotted ▸ hcode)
  · intro r hr hholds
    exact (not_mem_separatorSpan hr hholds hspan).1 hcode

/-- Blanks and double quotes are barriers. -/
theorem isBarrier (h : isBlank c ∨ c = '"') : IsBarrier c := by
  obtain ⟨span, hspan, hcode⟩ := exists_barrierSpan h
  refine ⟨isSmall_of_isSeparator ?_,
    not_contains_of_areApart runs_caseIgnorable_areApart hspan hcode,
    not_contains_of_areApart runs_cased_areApart hspan hcode⟩
  rcases h with h | rfl
  · exact isSeparator_of_isBlank h
  · decide

/-! ## Separators in small letters -/

theorem eq_of_mem_lowerChar (hd : isSeparator d) (h : d ∈ lowerChar c) : c = d := by
  obtain ⟨span, hspan, hcode⟩ := exists_separatorSpan hd
  by_cases hdotted : c.toNat = 0x130
  · -- The dotted capital I becomes an i and a dot above.
    rw [lowerChar, if_neg (by omega), if_pos hdotted, List.mem_cons, List.mem_singleton] at h
    rcases h with rfl | rfl
    · exact absurd hd (by decide)
    · exact absurd hd (by decide)
  · rw [lowerChar_eq hdotted, List.mem_singleton] at h
    rcases smallCode_cases c.toNat with ⟨hsame, -⟩ | ⟨r, hr, hholds, himage⟩
    · rw [h, hsame, Char.ofNat_toNat]
    · -- Otherwise the separator would be the small letter of a capital.
      rw [h, toNat_ofNat_smallCode, himage] at hcode
      exact absurd hcode (not_mem_separatorSpan hr hholds hspan).2

theorem lowerSigma_ne (hd : isSeparator d) (before after : List Char) :
    lowerSigma before after ≠ d := by
  rintro rfl
  rw [lowerSigma] at hd
  split at hd
  · exact absurd hd (by decide)
  · exact absurd hd (by decide)

theorem mem_of_mem_lowerAfter (hd : isSeparator d) {before : List Char}
    (h : d ∈ lowerAfter before cs) : d ∈ cs := by
  induction cs generalizing before with
  | nil => exact h
  | cons c cs ih =>
    rw [lowerAfter] at h
    split at h
    · exact List.mem_cons_of_mem _ (ih (List.mem_of_ne_of_mem (lowerSigma_ne hd _ _).symm h))
    · rcases List.mem_append.1 h with h | h
      · exact eq_of_mem_lowerChar hd h ▸ List.mem_cons_self
      · exact List.mem_cons_of_mem _ (ih h)

/-- A separator in small letters was there before. -/
theorem mem_of_mem_lower (hd : isSeparator d) (h : d ∈ lower cs) : d ∈ cs :=
  mem_of_mem_lowerAfter hd h

end Logbook.Text
