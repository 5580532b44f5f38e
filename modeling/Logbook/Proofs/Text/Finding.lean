import Logbook.Text.Blank

/-!
# Finding and cutting texts

What the functions that search a text and take it apart have to do with each other and with the
relations on lists of the standard library:

* `hasInfix_iff`: `hasInfix` finds a text exactly where it stands as an infix;
* `exists_word_of_infix`: a text without blanks that stands in another one stands in one of its
  words, for a word ends only at a blank;
* `splitOnP_append`: what stands in front of a text and is not cut itself goes into its first piece;
* `mem_splitOnP_iff`: the pieces of a text are what stands in it between characters of the class;
* `runs_intercalate`: joining texts with a character of the class puts no runs together.
-/

namespace Logbook.Text

variable {p : Char → Bool} {c : Char} {cs needle : List Char}

theorem hasInfix_iff : hasInfix needle cs ↔ needle <:+: cs := by
  induction cs with
  | nil => rw [hasInfix, List.isEmpty_iff, List.infix_nil]
  | cons c cs ih =>
    rw [hasInfix, Bool.or_eq_true, ih, List.isPrefixOf_iff_prefix, List.infix_cons_iff]

/-! ## Pieces -/

/-- A text without characters of the class goes into the first piece of what follows. -/
theorem splitOnP_append (h : ∀ c ∈ needle, ¬p c) (cs : List Char) :
    (needle ++ cs).splitOnP p = (cs.splitOnP p).modifyHead (needle ++ ·) := by
  induction needle with
  | nil => exact (congrFun List.modifyHead_id _).symm
  | cons d ds ih =>
    obtain ⟨hd, hds⟩ := List.forall_mem_cons.1 h
    rw [List.cons_append, List.splitOnP_cons_eq_if_modifyHead, if_neg hd, ih hds,
      List.modifyHead_modifyHead]
    rfl

/-- A text in which nothing would be cut stands in a piece of any text in which it stands. -/
theorem exists_piece_of_infix (hp : ∀ c ∈ needle, ¬p c) (h : needle <:+: cs) :
    ∃ piece ∈ cs.splitOnP p, needle <:+: piece := by
  induction cs with
  | nil => exact ⟨[], List.mem_cons_self, h⟩
  | cons c cs ih =>
    -- Either it begins here, or the piece in which it stands is found further on; this may be the
    -- piece that `c` is put in front of.
    rcases List.infix_cons_iff.1 h with ⟨after, hafter⟩ | hin
    · obtain ⟨first, rest, hs⟩ := List.exists_cons_of_ne_nil (List.splitOnP_ne_nil p after)
      rw [← hafter, splitOnP_append hp, hs]
      exact ⟨needle ++ first, List.mem_cons_self, (List.prefix_append needle first).isInfix⟩
    · obtain ⟨piece, hmem, hpiece⟩ := ih hin
      rw [List.splitOnP_cons_eq_if_modifyHead]
      split
      next => exact ⟨piece, List.mem_cons_of_mem _ hmem, hpiece⟩
      next =>
        obtain ⟨first, rest, hs⟩ := List.exists_cons_of_ne_nil (List.splitOnP_ne_nil p cs)
        rw [hs, List.modifyHead_cons]
        rcases List.mem_cons.1 (hs ▸ hmem) with rfl | hmem
        · exact ⟨c :: piece, List.mem_cons_self, hpiece.trans (List.suffix_cons c piece).isInfix⟩
        · exact ⟨piece, List.mem_cons_of_mem _ hmem, hpiece⟩

/-- A text without blanks stands in a single word. -/
theorem exists_word_of_infix (hne : needle ≠ []) (hp : ∀ c ∈ needle, ¬isBlank c)
    (h : needle <:+: cs) : ∃ word ∈ words cs, needle <:+: word := by
  obtain ⟨piece, hmem, hin⟩ := exists_piece_of_infix hp h
  refine ⟨piece, List.mem_filter.2 ⟨hmem, ?_⟩, hin⟩
  cases piece with
  | nil => exact absurd (List.infix_nil.1 hin) hne
  | cons => rfl

/-! ## Between two places -/

theorem mem_intercalate {d : Char} {steps : List (List Char)} (h : d ∈ [c].intercalate steps) :
    d = c ∨ ∃ step ∈ steps, d ∈ step := by
  induction steps with
  | nil => exact absurd h List.not_mem_nil
  | cons step steps ih =>
    cases steps with
    | nil => exact .inr ⟨step, List.mem_cons_self, by simpa using h⟩
    | cons next rest =>
      rw [List.intercalate_cons_cons, List.mem_append, List.mem_append, List.mem_singleton] at h
      rcases h with (h | h) | h
      · exact .inr ⟨step, List.mem_cons_self, h⟩
      · exact .inl h
      · rcases ih h with h | ⟨step, hstep, h⟩
        · exact .inl h
        · exact .inr ⟨step, List.mem_cons_of_mem _ hstep, h⟩

/-- Whether a text is what stands in another one between two characters of a class, or between one
    and an end. -/
def IsPiece (p : Char → Bool) (piece cs : List Char) : Prop :=
  (∀ c ∈ piece, ¬p c) ∧ ∃ front back, cs = front ++ piece ++ back ∧
    (∀ c ∈ front.getLast?, p c) ∧ ∀ c ∈ back.head?, p c

theorem isPiece_of_mem_splitOnP {p : Char → Bool} {piece cs : List Char}
    (h : piece ∈ cs.splitOnP p) : IsPiece p piece cs := by
  cases hfind : cs.find? p with
  | none =>
    have hnone := List.find?_eq_none.1 hfind
    rw [List.splitOnP_eq_singleton fun c hc => Bool.eq_false_iff.2 (hnone c hc),
      List.mem_singleton] at h
    subst h
    exact ⟨hnone, [], [], by simp, nofun, nofun⟩
  | some c =>
    obtain ⟨hc, front, back, rfl, hfront⟩ := List.find?_eq_some_iff_append.1 hfind
    have hnone : ∀ d ∈ front, p d = false := fun d hd => by simpa using hfront d hd
    rw [List.splitOnP_append_cons_of_forall_mem hnone c hc, List.mem_cons] at h
    rcases h with rfl | h
    · exact ⟨fun d hd => Bool.eq_false_iff.1 (hnone d hd), [], c :: back, rfl, nofun,
        by simpa using hc⟩
    · -- What is further on stands behind `c`, or behind what ends in a character of the class.
      obtain ⟨hpiece, before, after, rfl, hbefore, hafter⟩ := isPiece_of_mem_splitOnP h
      refine ⟨hpiece, front ++ c :: before, after, by simp, fun d hd => ?_, hafter⟩
      rw [List.getLast?_append, List.getLast?_cons, Option.some_or] at hd
      cases hlast : before.getLast? with
      | none =>
        rw [hlast] at hd
        exact Option.some.inj hd ▸ hc
      | some b =>
        rw [hlast] at hd
        exact Option.some.inj hd ▸ hbefore b hlast
termination_by cs.length

theorem mem_splitOnP_iff {piece : List Char} : piece ∈ cs.splitOnP p ↔ IsPiece p piece cs := by
  refine ⟨isPiece_of_mem_splitOnP, ?_⟩
  rintro ⟨hnone, front, back, rfl, hfront, hback⟩
  have hnone : ∀ c ∈ piece, p c = false := fun c hc => Bool.eq_false_iff.2 (hnone c hc)
  have hlast : piece ∈ (piece ++ back).splitOnP p := by
    cases back with
    | nil =>
      rw [List.append_nil, List.splitOnP_eq_singleton hnone]
      exact List.mem_singleton_self piece
    | cons c back =>
      rw [List.splitOnP_append_cons_of_forall_mem hnone c (hback c rfl)]
      exact List.mem_cons_self
  rw [List.append_assoc]
  rcases List.eq_nil_or_concat front with rfl | ⟨front, c, rfl⟩
  · exact hlast
  · rw [List.concat_eq_append, List.append_assoc, List.singleton_append,
      List.splitOnP_append_cons _ _ (hfront c (by simp))]
    exact List.mem_append_right _ hlast

/-! ## Runs -/

theorem mem_runs_iff {run : List Char} : run ∈ runs p cs ↔ run ≠ [] ∧ IsPiece p run cs := by
  rw [runs, List.mem_filter, mem_splitOnP_iff, and_comm]
  simp

theorem runs_append_cons (hc : p c) (front back : List Char) :
    runs p (front ++ c :: back) = runs p front ++ runs p back := by
  rw [runs, List.splitOnP_append_cons _ _ hc, List.filter_append, runs, runs]

theorem runs_of_forall_not (hne : cs ≠ []) (h : ∀ c ∈ cs, ¬p c) : runs p cs = [cs] := by
  rw [runs, List.splitOnP_eq_singleton fun c hc => Bool.eq_false_iff.2 (h c hc)]
  simpa using hne

/-- Joining texts with a character of the class puts no runs together. -/
theorem runs_intercalate (hc : p c) (steps : List (List Char)) :
    runs p ([c].intercalate steps) = steps.flatMap (runs p) := by
  induction steps with
  | nil => rfl
  | cons step steps ih =>
    cases steps with
    | nil => simp
    | cons next rest =>
      rw [List.intercalate_cons_cons, List.append_assoc, List.singleton_append,
        runs_append_cons hc, ih]
      exact List.flatMap_cons.symm

theorem words_append_cons (hne : needle ≠ []) (h : ∀ d ∈ needle, ¬isBlank d) (hc : isBlank c) :
    words (needle ++ c :: cs) = needle :: words cs := by
  rw [words, runs_append_cons hc, runs_of_forall_not hne h, List.singleton_append, words]

end Logbook.Text
