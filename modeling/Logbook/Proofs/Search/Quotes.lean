import Logbook.Proofs.Search.Hits
import Logbook.Proofs.Text.Trimming
import Mathlib.Data.List.Induction

/-!
# Terms between quotes

Double quotes cut a text in small letters into pieces. If their number is even, every other piece
stands outside of quotes, the first and the last one among them, and the others are the phrases. If
it is odd, the last quote pairs with none: the piece behind it stands outside as well, so that two
pieces outside of quotes follow each other (`outsideQuotes`, `insideQuotes`). A walk through the
pieces by two at a time tells them apart (`unquoted_eq`).

The words outside of quotes (`words`) give the stems, each at the place where it comes first
(`pairwise_eraseDups`). `ofText_quotes` says what the terms of any text are by these pieces and
words.
-/

namespace Logbook

/-- The first, the third and so on of the members of a list. -/
def everyOther {α : Type} : List α → List α
  | [] => []
  | [a] => [a]
  | a :: _ :: l => a :: everyOther l

theorem getElem?_everyOther {α : Type} (l : List α) (i : Nat) :
    (everyOther l)[i]? = l[2 * i]? := by
  fun_induction everyOther l generalizing i with
  | case1 => rfl
  | case2 a => cases i <;> rfl
  | case3 a b l ih =>
    cases i with
    | zero => rfl
    | succ i => rw [List.getElem?_cons_succ, ih, Nat.mul_succ]; rfl

theorem mem_of_mem_everyOther {α : Type} {l : List α} {a : α} (h : a ∈ everyOther l) : a ∈ l := by
  obtain ⟨i, hi⟩ := List.mem_iff_getElem?.1 h
  exact List.mem_of_getElem? (getElem?_everyOther l i ▸ hi)

namespace SearchTerms

variable {query : String} {word token phrase : List Char} {s : List (List Char)}

/-! ## Pieces outside and inside of quotes -/

/-- Of the pieces of a text between its quotes, those that stand outside of quotes. -/
def outsideQuotes (s : List (List Char)) : List (List Char) :=
  if s.length % 2 = 1 then everyOther s else everyOther s ++ s.getLast?.toList

/-- Of the pieces of a text between its quotes, those that stand inside of quotes. -/
def insideQuotes (s : List (List Char)) : List (List Char) :=
  if s.length % 2 = 1 then everyOther s.tail else everyOther s.dropLast.tail

/-- The walk by two at a time keeps the parity of the number of pieces. -/
theorem length_mod_two_cons_cons (outside inside : List Char) (s : List (List Char)) :
    (outside :: inside :: s).length % 2 = s.length % 2 := by
  rw [List.length_cons, List.length_cons, Nat.add_assoc, Nat.add_mod_right]

theorem outsideQuotes_cons (outside inside next : List Char) (rest : List (List Char)) :
    outsideQuotes (outside :: inside :: next :: rest) =
      outside :: outsideQuotes (next :: rest) := by
  rw [outsideQuotes, outsideQuotes, length_mod_two_cons_cons, everyOther, List.getLast?_cons_cons,
    List.getLast?_cons_cons]
  split
  · rfl
  · rw [List.cons_append]

theorem insideQuotes_cons (outside inside next : List Char) (rest : List (List Char)) :
    insideQuotes (outside :: inside :: next :: rest) = inside :: insideQuotes (next :: rest) := by
  rw [insideQuotes, insideQuotes, length_mod_two_cons_cons]
  split
  next => rfl
  next hodd =>
    -- The last piece is not `next`, for then their number would be odd.
    cases rest with
    | nil => exact absurd rfl hodd
    | cons last rest => rfl

/-- The first piece stands outside of quotes, whatever follows. -/
theorem exists_outsideQuotes_eq (rest : List (List Char)) :
    ∃ others, ∀ piece, outsideQuotes (piece :: rest) = piece :: others := by
  rcases rest with _ | ⟨second, _ | ⟨third, rest⟩⟩
  · exact ⟨[], fun _ => rfl⟩
  · refine ⟨[second], fun piece => ?_⟩
    have htwo : ¬[piece, second].length % 2 = 1 := by simp
    rw [outsideQuotes, if_neg htwo]
    rfl
  · exact ⟨_, fun piece => outsideQuotes_cons piece second third rest⟩

theorem insideQuotes_congr_head (piece piece' : List Char) (rest : List (List Char)) :
    insideQuotes (piece :: rest) = insideQuotes (piece' :: rest) := by
  rcases rest with _ | ⟨second, _ | ⟨third, rest⟩⟩
  · rfl
  · rfl
  · rw [insideQuotes_cons, insideQuotes_cons]

/-- To walk through the pieces by two at a time tells them apart. -/
theorem unquoted_eq (s : List (List Char)) : unquoted s = (outsideQuotes s, insideQuotes s) := by
  fun_induction unquoted s with
  | case1 outside inside next rest outer inner hrest ih =>
    rw [outsideQuotes_cons, insideQuotes_cons]
    obtain ⟨rfl, rfl⟩ := Prod.mk.inj (hrest.symm.trans ih)
    rfl
  | case2 s hs =>
    -- Two pieces are left where the last quote pairs with none.
    rcases s with _ | ⟨first, _ | ⟨second, _ | ⟨third, rest⟩⟩⟩
    · rfl
    · rfl
    · have htwo : ¬[first, second].length % 2 = 1 := by simp
      rw [outsideQuotes, insideQuotes, if_neg htwo, if_neg htwo]
      rfl
    · exact absurd rfl (hs first second third rest)

theorem mem_of_mem_insideQuotes (h : phrase ∈ insideQuotes s) : phrase ∈ s := by
  rw [insideQuotes] at h
  split at h
  · exact List.mem_of_mem_tail (mem_of_mem_everyOther h)
  · exact (List.dropLast_subset s) (List.mem_of_mem_tail (mem_of_mem_everyOther h))

/-! ## Words outside of quotes -/

/-- The pieces of a text in small letters between its quotes. -/
def pieces (query : String) : List (List Char) :=
  (Text.lower query.toList).splitOn '"'

/-- The words of a text in small letters that stand outside of quotes. -/
def words (query : String) : List (List Char) :=
  (outsideQuotes (pieces query)).flatMap (Text.runs isSeparator)

/-- The stems of these words, but for the word `unknown`. -/
def stems (query : String) : List (List Char) :=
  ((words query).filter (· ≠ unknownWord)).map stem

theorem ofText_eq (query : String) : ofText query =
    { tokens := (stems query).eraseDups
      phrases := ((insideQuotes (pieces query)).map Text.trim).filter (! ·.isEmpty)
      unknown := (words query).contains unknownWord } := by
  rw [ofText, unquoted_eq]
  rfl

theorem tokens_ofText (query : String) : (ofText query).tokens = (stems query).eraseDups := by
  rw [ofText_eq]

theorem phrases_ofText (query : String) : (ofText query).phrases =
    ((insideQuotes (pieces query)).map Text.trim).filter (! ·.isEmpty) := by
  rw [ofText_eq]

theorem mem_tokens_iff : token ∈ (ofText query).tokens ↔
    ∃ word ∈ words query, word ≠ unknownWord ∧ stem word = token := by
  rw [tokens_ofText, List.mem_eraseDups, stems, List.mem_map]
  simp only [List.mem_filter, decide_eq_true_eq, and_assoc]

theorem unknown_iff : (ofText query).unknown ↔ unknownWord ∈ words query := by
  rw [ofText_eq, List.contains_iff_mem]

theorem mem_words_iff : word ∈ words query ↔ word ≠ [] ∧
    ∃ piece ∈ outsideQuotes (pieces query), Text.IsPiece isSeparator word piece := by
  rw [words, List.mem_flatMap]
  simp only [Text.mem_runs_iff, ← exists_and_left, and_left_comm]

/-! ## First places -/

/-- Members stand in the order in which they come first. -/
theorem pairwise_eraseDups (ws : List (List Char)) :
    ws.eraseDups.Pairwise fun a b => ws.idxOf a < ws.idxOf b := by
  induction ws using List.reverseRecOn with
  | nil => exact List.Pairwise.nil
  | append_singleton ws word ih =>
    have hkept : ws.eraseDups.Pairwise
        fun a b => (ws ++ [word]).idxOf a < (ws ++ [word]).idxOf b := by
      refine ih.imp_of_mem fun ha hb hlt => ?_
      rwa [List.idxOf_append_of_mem (List.mem_eraseDups.1 ha),
        List.idxOf_append_of_mem (List.mem_eraseDups.1 hb)]
    rw [List.eraseDups_append]
    by_cases hword : word ∈ ws
    · simpa [List.removeAll, hword] using hkept
    · have hlast : ([word].removeAll ws).eraseDups = [word] := by
        simp [List.removeAll, List.eraseDups_cons, hword]
      rw [hlast]
      refine List.pairwise_append.2 ⟨hkept, List.pairwise_singleton _ _, fun a ha b hb => ?_⟩
      have ha := List.mem_eraseDups.1 ha
      rw [List.mem_singleton.1 hb, List.idxOf_append_of_mem ha, List.idxOf_append_of_notMem hword]
      exact Nat.lt_add_right _ (List.idxOf_lt_length_of_mem ha)

theorem nodup_tokens (query : String) : (ofText query).tokens.Nodup := by
  rw [tokens_ofText]
  exact (pairwise_eraseDups _).imp fun hlt heq => absurd (heq ▸ hlt) (Nat.lt_irrefl _)

/-! ## The terms of a text -/

theorem not_mem_piece {piece : List Char} (h : piece ∈ pieces query) : '"' ∉ piece :=
  fun hmem => (Text.mem_splitOnP_iff.1 h).1 '"' hmem BEq.rfl

theorem phrase_proper (h : phrase ∈ (ofText query).phrases) : phrase ≠ [] ∧ '"' ∉ phrase := by
  rw [phrases_ofText, List.mem_filter, List.mem_map] at h
  obtain ⟨⟨piece, hpiece, rfl⟩, hne⟩ := h
  refine ⟨by simpa using hne, fun hquote => ?_⟩
  exact not_mem_piece (mem_of_mem_insideQuotes hpiece) ((Text.trim_infix piece).subset hquote)

/-- The terms of a text by its pieces between quotes: the phrases are the pieces inside of quotes,
    the stems come from the words of each piece outside of them. No word goes on from one piece to
    the next, as if there were a blank between the pieces. -/
theorem ofText_quotes (query : String) :
    (['"'].intercalate (pieces query) = Text.lower query.toList ∧
      ∀ piece ∈ pieces query, '"' ∉ piece) ∧
    (ofText query).phrases =
      ((insideQuotes (pieces query)).map Text.trim).filter (! ·.isEmpty) ∧
    (∀ word, word ∈ words query ↔ word ≠ [] ∧
      ∃ piece ∈ outsideQuotes (pieces query), Text.IsPiece isSeparator word piece) ∧
    words query = Text.runs isSeparator ([' '].intercalate (outsideQuotes (pieces query))) ∧
    (∀ token, token ∈ (ofText query).tokens ↔ token ∈ stems query) ∧
    (ofText query).tokens.Pairwise (fun a b => (stems query).idxOf a < (stems query).idxOf b) ∧
    (ofText query).tokens.Nodup ∧
    ((ofText query).unknown ↔ unknownWord ∈ words query) ∧
    (∀ token ∈ (ofText query).tokens, token ≠ []) ∧
    ∀ phrase ∈ (ofText query).phrases, phrase ≠ [] ∧ '"' ∉ phrase := by
  have hblank : isSeparator ' ' := by decide
  refine ⟨⟨List.intercalate_splitOn '"', fun piece => not_mem_piece⟩, phrases_ofText query,
    fun word => mem_words_iff, (Text.runs_intercalate hblank _).symm, fun token => ?_, ?_,
    nodup_tokens query, unknown_iff, fun token => ne_nil_of_mem_tokens,
    fun phrase => phrase_proper⟩
  · rw [tokens_ofText, List.mem_eraseDups]
  · rw [tokens_ofText]
    exact pairwise_eraseDups (stems query)

example : ofText "Full \"disk is full\" disks \"unknown" =
    ⟨["full".toList, "disk".toList], ["disk is full".toList], true⟩ := by decide +kernel

end SearchTerms

end Logbook
