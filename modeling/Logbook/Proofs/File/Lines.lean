import Logbook.Ingest
import Logbook.Proofs.Entry.Classes
import Logbook.Proofs.File.Encoding
import Mathlib.Data.List.Forall2

/-!
# Entries line by line

The entries of a file are those of its lines, one line after another. So a file may be cut after
any newline and read in parts (`readEntries_append`), and whether it is read at all is for its
lines to say, each on its own. What ends a line does not stay in its entry, be it a newline, a
carriage return with it or the end of the file (`Entry.ofLine?_append`), and a blank line leaves
nothing behind. So texts that differ in these only are taken in alike (`readEntries_joinLines`).
-/

namespace Logbook

/-! ## Lines of text -/

namespace Text

variable {p : Char → Bool} {cs ends : List Char}

theorem stripEnd_append (h : ∀ c ∈ ends, p c) : stripEnd p (cs ++ ends) = stripEnd p cs := by
  rw [stripEnd, List.reverse_append, stripEnd,
    List.dropWhile_append_of_pos fun c hc => h c (List.mem_reverse.1 hc)]

theorem exists_eq_stripEnd_append (p : Char → Bool) (cs : List Char) :
    ∃ ends, cs = stripEnd p cs ++ ends ∧ ∀ c ∈ ends, p c := by
  refine ⟨(cs.reverse.takeWhile p).reverse, ?_, fun c hc => ?_⟩
  · rw [stripEnd, ← List.reverse_append, List.takeWhile_append_dropWhile, List.reverse_reverse]
  · exact List.all_eq_true.1 List.all_takeWhile c (List.mem_reverse.1 hc)

theorem stripEnd_eq_self (h : ∀ c ∈ cs, ¬p c) : stripEnd p cs = cs := by
  obtain ⟨ends, hcs, hends⟩ := exists_eq_stripEnd_append p cs
  cases ends with
  | nil => rw [List.append_nil] at hcs; exact hcs.symm
  | cons c ends =>
    have hc : c ∈ cs := hcs ▸ List.mem_append_right _ List.mem_cons_self
    exact absurd (hends c List.mem_cons_self) (h c hc)

/-- Whether a text is blank does not depend on the blanks at its end. -/
theorem isBlankText_stripEnd (h : ∀ c, p c → isBlank c) (cs : List Char) :
    isBlankText (stripEnd p cs) = isBlankText cs := by
  obtain ⟨ends, hcs, hends⟩ := exists_eq_stripEnd_append p cs
  have hblank : ends.all isBlank := List.all_eq_true.2 fun c hc => h c (hends c hc)
  conv_rhs => rw [hcs, isBlankText, List.all_append, hblank, Bool.and_true]
  rfl

end Text

theorem isBlank_of_isLineEnd {c : Char} (h : isLineEnd c) : Text.isBlank c := by
  simp only [isLineEnd, Bool.or_eq_true, decide_eq_true_eq] at h
  rcases h with rfl | rfl <;> decide

namespace Entry

variable {line s : String} {cs ends : List Char}

/-- What ends a line leaves no trace. -/
theorem ofLine?_append (h : ∀ c ∈ ends, isLineEnd c) :
    ofLine? (String.ofList (cs ++ ends)) = ofLine? (String.ofList cs) := by
  simp only [ofLine?, String.toList_ofList, Text.stripEnd_append h]

theorem ofLine?_eq_none_iff : ofLine? (String.ofList cs) = none ↔ Text.isBlankText cs := by
  simp only [ofLine?, String.toList_ofList, ite_eq_left_iff, reduceCtorEq, imp_false, not_not,
    Text.isBlankText_stripEnd (fun _ => isBlank_of_isLineEnd)]

/-- A line of text is kept word for word, but for what ends it. -/
theorem eq_of_ofLine?_eq_text (h : ofLine? line = some (.text s)) :
    s.toList = Text.stripEnd isLineEnd line.toList := by
  simp only [ofLine?, Option.ite_none_left_eq_some, Option.some.injEq] at h
  obtain ⟨-, h⟩ := h
  cases hobject : ofObjectText? (Text.trim (Text.stripEnd isLineEnd line.toList)) with
  | none =>
    rw [hobject, Option.getD_none, text.injEq] at h
    rw [← h, String.toList_ofList]
  | some e =>
    rw [hobject, Option.getD_some] at h
    subst h
    unfold ofObjectText? at hobject
    split at hobject
    next fields _ =>
      have hkind := kind_classify_ne_text (.object fields)
      rw [Option.some.inj hobject] at hkind
      exact absurd rfl hkind
    next => cases hobject

end Entry

/-! ## Lines of bytes -/

namespace Bytes

variable {a b line rest bytes : Bytes}

/-- Nothing, or bytes that end with a newline. -/
def Closed (bytes : Bytes) : Prop :=
  bytes = [] ∨ bytes.getLast? = some newline

theorem closed_append_newline (bytes : Bytes) : Closed (bytes ++ [newline]) :=
  .inr List.getLast?_concat

theorem extend_nil (b : UInt8) : extend b [] = [[b]] := by
  unfold extend
  split <;> rfl

theorem extend_ne_nil (b : UInt8) (ls : List Bytes) : extend b ls ≠ [] := by
  unfold extend
  split
  · exact List.cons_ne_nil _ _
  · split <;> exact List.cons_ne_nil _ _

theorem extend_append {ls : List Bytes} (h : ls ≠ []) (b : UInt8) (ls' : List Bytes) :
    extend b (ls ++ ls') = extend b ls ++ ls' := by
  obtain ⟨l, ls, rfl⟩ := List.exists_cons_of_ne_nil h
  unfold extend
  split <;> rfl

/-- No line goes on over a newline. -/
theorem lines_append (h : Closed a) (b : Bytes) : lines (a ++ b) = lines a ++ lines b := by
  induction a with
  | nil => rfl
  | cons c a ih =>
    cases a with
    | nil =>
      obtain rfl : c = newline := by simpa [Closed] using h
      rfl
    | cons d a =>
      -- The byte goes to the first line of `a`, and there is one.
      have ha : Closed (d :: a) := .inr (by simpa [Closed] using h)
      have hne : lines (d :: a) ≠ [] := extend_ne_nil d (lines a)
      show extend c (lines (d :: a ++ b)) = extend c (lines (d :: a)) ++ lines b
      rw [ih ha, extend_append hne]

/-- What has no newline before its last byte is one line, be this byte a newline or not. -/
theorem lines_concat (h : newline ∉ line) (c : UInt8) : lines (line ++ [c]) = [line ++ [c]] := by
  induction line with
  | nil => exact extend_nil c
  | cons b line ih =>
    rw [List.mem_cons, not_or] at h
    show extend b (lines (line ++ [c])) = _
    rw [ih h.2, extend, if_neg (Ne.symm h.1)]
    rfl

/-- Bytes are one line, or a line and what comes after it. -/
theorem line_induction {motive : Bytes → Prop} (last : ∀ line, newline ∉ line → motive line)
    (next : ∀ line rest, newline ∉ line → motive rest → motive (line ++ newline :: rest))
    (bytes : Bytes) : motive bytes := by
  by_cases h : newline ∈ bytes
  · obtain ⟨line, rest, rfl, hline⟩ := List.eq_append_cons_of_mem h
    exact next line rest hline (line_induction last next rest)
  · exact last bytes h
termination_by bytes.length
decreasing_by grind

end Bytes

/-! ## Entries of files -/

open Bytes (newline ofText Closed)

variable {a b line rest bytes : Bytes} {cs ending : List Char} {texts : List (List Char)}

/-- The entries of a line of text: one, or none if the line is blank. -/
def entriesOfText (cs : List Char) : List Entry :=
  (Entry.ofLine? (String.ofList cs)).toList

/-- The entries of a line. -/
def entriesOfLine (line : Bytes) : Except FileFault (List Entry) :=
  match line.text? with
  | some s => .ok (entriesOfText s.toList)
  | none => .error .notText

theorem entriesOfText_eq_nil (h : Text.isBlankText cs) : entriesOfText cs = [] := by
  rw [entriesOfText, Entry.ofLine?_eq_none_iff.2 h, Option.toList_none]

theorem entriesOfText_append {ends : List Char} (h : ∀ c ∈ ends, isLineEnd c) :
    entriesOfText (cs ++ ends) = entriesOfText cs := by
  rw [entriesOfText, Entry.ofLine?_append h, entriesOfText]

theorem entriesOfLine_ofText (cs : List Char) :
    entriesOfLine (ofText cs) = .ok (entriesOfText cs) := by
  rw [entriesOfLine, Bytes.text?_ofText]
  exact congrArg (Except.ok <| entriesOfText ·) String.toList_ofList

/-- The newline after a line says nothing. -/
theorem entriesOfLine_append_newline (line : Bytes) :
    entriesOfLine (line ++ [newline]) = entriesOfLine line := by
  rw [entriesOfLine, Bytes.text?_append_newline, entriesOfLine]
  cases line.text? with
  | none => rfl
  | some s =>
    rw [Option.map_some]
    dsimp only
    rw [String.toList_push, entriesOfText_append (List.forall_mem_singleton.2 rfl)]

/-- A file is read in parts as it is as a whole, if they end with newlines. -/
theorem readEntries_append (h : Closed a) (b : Bytes) :
    readEntries (a ++ b) = do return (← readEntries a) ++ (← readEntries b) := by
  rw [readEntries, Bytes.lines_append h, List.mapM_append, readEntries, readEntries]
  cases a.lines.mapM Bytes.text? with
  | none => rfl
  | some as =>
    cases b.lines.mapM Bytes.text? with
    | none => rfl
    | some bs => exact congrArg Except.ok List.filterMap_append

theorem readEntries_concat (h : newline ∉ line) (c : UInt8) :
    readEntries (line ++ [c]) = entriesOfLine (line ++ [c]) := by
  rw [readEntries, Bytes.lines_concat h, List.mapM_cons, List.mapM_nil, entriesOfLine]
  cases Bytes.text? (line ++ [c]) with
  | none => rfl
  | some s =>
    show Except.ok ([s].filterMap Entry.ofLine?) = .ok (entriesOfText s.toList)
    rw [List.filterMap_eq_flatMap_toList, List.flatMap_singleton, entriesOfText,
      String.ofList_toList]

theorem readEntries_line (h : newline ∉ line) : readEntries line = entriesOfLine line := by
  rcases List.eq_nil_or_concat' line with rfl | ⟨front, c, rfl⟩
  · exact ((entriesOfLine_ofText []).trans (congrArg _ (entriesOfText_eq_nil rfl))).symm
  · exact readEntries_concat (fun hmem => h (List.mem_append_left _ hmem)) c

theorem readEntries_line_newline (h : newline ∉ line) :
    readEntries (line ++ [newline]) = entriesOfLine line := by
  rw [readEntries_concat h, entriesOfLine_append_newline]

/-- The entries of a file are those of its first line and of the rest. -/
theorem readEntries_line_append (h : newline ∉ line) (rest : Bytes) :
    readEntries (line ++ newline :: rest) =
      do return (← entriesOfLine line) ++ (← readEntries rest) := by
  rw [← readEntries_line_newline h, ← readEntries_append (Bytes.closed_append_newline line),
    List.append_assoc, List.singleton_append]

/-! ## Faults -/

theorem entriesOfLine_eq_error_iff :
    (∃ fault, entriesOfLine line = .error fault) ↔
      ¬(ByteArray.mk line.toArray).IsValidUTF8 := by
  rw [← Bytes.text?_eq_none_iff, entriesOfLine]
  cases line.text? <;> simp

theorem append_eq_error_iff {x y : Except FileFault (List Entry)} :
    (∃ fault, (do return (← x) ++ (← y)) = Except.error fault) ↔
      (∃ fault, x = .error fault) ∨ ∃ fault, y = .error fault := by
  cases x with
  | error fault => exact ⟨fun _ => .inl ⟨fault, rfl⟩, fun _ => ⟨fault, rfl⟩⟩
  | ok es =>
    cases y with
    | error fault => exact ⟨fun _ => .inr ⟨fault, rfl⟩, fun _ => ⟨fault, rfl⟩⟩
    | ok es' => simp [bind, Except.bind, pure, Except.pure]

/-- A file cannot be read if and only if one of its lines is no text. -/
theorem readEntries_eq_error_iff :
    (∃ fault, readEntries bytes = .error fault) ↔
      ∃ line ∈ bytes.splitOn newline, ¬(ByteArray.mk line.toArray).IsValidUTF8 := by
  induction bytes using Bytes.line_induction with
  | last line h =>
    rw [readEntries_line h, List.splitOn_eq_singleton h, entriesOfLine_eq_error_iff]
    simp
  | next line rest h ih =>
    rw [readEntries_line_append h, append_eq_error_iff, entriesOfLine_eq_error_iff, ih,
      List.splitOn_append_cons_self_of_not_mem h, List.exists_mem_cons_iff]

/-! ## Joined texts -/

/-- What may end a line. -/
def lineEndings : List (List Char) :=
  [['\n'], ['\r', '\n']]

/-- Lines with an ending after each of them, or after each but the last one. -/
def joinLines (ending : List Char) (closed : Bool) (lines : List (List Char)) : List Char :=
  ending.intercalate lines ++ if closed then ending else []

theorem exists_of_mem_lineEndings (h : ending ∈ lineEndings) :
    ∃ returns, ending = returns ++ ['\n'] ∧ ∀ c ∈ returns, c = '\r' := by
  simp only [lineEndings, List.mem_cons, List.not_mem_nil, or_false] at h
  rcases h with rfl | rfl
  · exact ⟨[], rfl, by simp⟩
  · exact ⟨['\r'], rfl, by simp⟩

theorem closed_ofText_append (h : ending ∈ lineEndings) (cs : List Char) :
    Closed (ofText (cs ++ ending)) := by
  obtain ⟨returns, rfl, -⟩ := exists_of_mem_lineEndings h
  rw [← List.append_assoc, Bytes.ofText_append, Bytes.ofText_newline]
  exact Bytes.closed_append_newline _

theorem readEntries_ofText (h : '\n' ∉ cs) :
    readEntries (ofText cs) = .ok (entriesOfText cs) := by
  rw [readEntries_line (Bytes.newline_mem_ofText.not.2 h), entriesOfLine_ofText]

theorem readEntries_ofText_append (h : '\n' ∉ cs) (hending : ending ∈ lineEndings) :
    readEntries (ofText (cs ++ ending)) = .ok (entriesOfText cs) := by
  obtain ⟨returns, rfl, hreturns⟩ := exists_of_mem_lineEndings hending
  have hline : '\n' ∉ cs ++ returns := by
    rw [List.mem_append, not_or]
    exact ⟨h, fun hmem => absurd (hreturns _ hmem) (by decide)⟩
  rw [← List.append_assoc, Bytes.ofText_append, Bytes.ofText_newline,
    readEntries_line_newline (Bytes.newline_mem_ofText.not.2 hline), entriesOfLine_ofText,
    entriesOfText_append fun c hc => by rw [hreturns c hc]; decide]

theorem joinLines_cons_cons (ending : List Char) (closed : Bool) (cs cs' : List Char)
    (texts : List (List Char)) : joinLines ending closed (cs :: cs' :: texts) =
      cs ++ ending ++ joinLines ending closed (cs' :: texts) := by
  rw [joinLines, List.intercalate_cons_cons, joinLines, List.append_assoc]

theorem readEntries_joinLines_singleton (hending : ending ∈ lineEndings) (closed : Bool)
    (h : '\n' ∉ cs) : readEntries (ofText (joinLines ending closed [cs])) =
      .ok (entriesOfText cs) := by
  rw [joinLines, List.intercalate_singleton]
  cases closed with
  | false => simpa using readEntries_ofText h
  | true => exact readEntries_ofText_append h hending

/-- Joined lines are taken in one by one. -/
theorem readEntries_joinLines (hending : ending ∈ lineEndings) (closed : Bool)
    (h : ∀ cs ∈ texts, '\n' ∉ cs) :
    readEntries (ofText (joinLines ending closed texts)) =
      .ok (texts.flatMap entriesOfText) := by
  induction texts with
  | nil =>
    -- No lines at all are joined to what an empty one is.
    have hempty := readEntries_joinLines_singleton hending closed (List.not_mem_nil (a := '\n'))
    rwa [entriesOfText_eq_nil rfl] at hempty
  | cons cs texts ih =>
    obtain ⟨hcs, htexts⟩ := List.forall_mem_cons.1 h
    cases texts with
    | nil => rw [readEntries_joinLines_singleton hending closed hcs, List.flatMap_singleton]
    | cons cs' texts =>
      -- The first line with its ending is a part of its own.
      rw [joinLines_cons_cons, Bytes.ofText_append,
        readEntries_append (closed_ofText_append hending cs), readEntries_ofText_append hcs hending,
        ih htexts, List.flatMap_cons]
      rfl

/-- Blank lines give no entries. -/
theorem flatMap_filter_isBlankText (texts : List (List Char)) :
    (texts.filter (!Text.isBlankText ·)).flatMap entriesOfText = texts.flatMap entriesOfText := by
  induction texts with
  | nil => rfl
  | cons cs texts ih =>
    rw [List.filter_cons, List.flatMap_cons, ← ih]
    cases hblank : Text.isBlankText cs with
    | false => rfl
    | true =>
      rw [entriesOfText_eq_nil hblank]
      rfl

/-- Every line that is not blank gives an entry, and a text keeps the line as it is. -/
theorem exists_ofLine?_eq_some (hblank : ¬Text.isBlankText cs) (h : ∀ c ∈ cs, ¬isLineEnd c) :
    ∃ e, Entry.ofLine? (String.ofList cs) = some e ∧ ∀ s, e = .text s → s.toList = cs := by
  obtain ⟨e, he⟩ := Option.ne_none_iff_exists'.1 (Entry.ofLine?_eq_none_iff.not.2 hblank)
  -- Nothing is stripped from a line in which nothing ends lines.
  refine ⟨e, he, ?_⟩
  rintro s rfl
  rw [Entry.eq_of_ofLine?_eq_text he, String.toList_ofList, Text.stripEnd_eq_self h]

theorem forall₂_entries (h : ∀ cs ∈ texts, ¬Text.isBlankText cs ∧ ∀ c ∈ cs, ¬isLineEnd c) :
    List.Forall₂ (fun cs e => Entry.ofLine? (String.ofList cs) = some e ∧
        ∀ s, e = .text s → s.toList = cs) texts (texts.flatMap entriesOfText) := by
  induction texts with
  | nil => exact .nil
  | cons cs texts ih =>
    obtain ⟨⟨hblank, hends⟩, htexts⟩ := List.forall_mem_cons.1 h
    obtain ⟨e, he, hverbatim⟩ := exists_ofLine?_eq_some hblank hends
    rw [List.flatMap_cons, entriesOfText, he]
    exact .cons ⟨he, hverbatim⟩ (ih htexts)

/-- A file may be cut after any newline and read in parts, and it cannot be read if and only if one
    of its lines is no text. Of lines of text each one that is not blank gives its entry, whatever
    ends the lines, and whatever blank ones stand between them; an entry that is a text holds its
    line as it is. -/
theorem readEntries_lines :
    (∀ a b : Bytes, Closed a →
      readEntries (a ++ b) = do return (← readEntries a) ++ (← readEntries b)) ∧
    (∀ bytes : Bytes, (∃ fault, readEntries bytes = .error fault) ↔
      ∃ line ∈ bytes.splitOn newline, ¬(ByteArray.mk line.toArray).IsValidUTF8) ∧
    ∀ lines : List (List Char), (∀ line ∈ lines, ∀ c ∈ line, ¬isLineEnd c) →
      ∃ es, List.Forall₂ (fun line e => Entry.ofLine? (String.ofList line) = some e ∧
          ∀ s, e = .text s → s.toList = line) (lines.filter (!Text.isBlankText ·)) es ∧
        ∀ padded : List (List Char), (∀ line ∈ padded, '\n' ∉ line) →
          padded.filter (!Text.isBlankText ·) = lines.filter (!Text.isBlankText ·) →
          ∀ ending ∈ lineEndings, ∀ closed,
            readEntries (ofText (joinLines ending closed padded)) = .ok es := by
  refine ⟨fun a b h => readEntries_append h b, fun _ => readEntries_eq_error_iff,
    fun lines hlines => ?_⟩
  have hkept : ∀ line ∈ lines.filter (!Text.isBlankText ·),
      ¬Text.isBlankText line ∧ ∀ c ∈ line, ¬isLineEnd c := fun line hline => by
    obtain ⟨hmem, hblank⟩ := List.mem_filter.1 hline
    exact ⟨by simpa using hblank, hlines line hmem⟩
  refine ⟨_, forall₂_entries hkept, fun padded hpadded hsame ending hending closed => ?_⟩
  rw [readEntries_joinLines hending closed hpadded, ← hsame, flatMap_filter_isBlankText]

/-- A part that is no text, and two lines with blank ones between them. -/
theorem readEntries_lines_mixed :
    let a : Bytes := ofText "{}\n".toList
    let b : Bytes := [0x75, 0xFF]
    let lines : List (List Char) := ["\tup ".toList, "{}".toList]
    let padded : List (List Char) := [[], "\tup ".toList, " \r".toList, "{}".toList]
    Closed a ∧ readEntries (a ++ b) = (do return (← readEntries a) ++ (← readEntries b)) ∧
      (∃ fault, readEntries (a ++ b) = .error fault) ∧
      (∀ line ∈ lines, ∀ c ∈ line, ¬isLineEnd c) ∧
      ∃ es, es.length = 2 ∧
        readEntries (ofText (joinLines ['\n'] true lines)) = .ok es ∧
        readEntries (ofText (joinLines ['\r', '\n'] false padded)) = .ok es := by
  intro a b lines padded
  obtain ⟨happend, herror, hlines⟩ := readEntries_lines
  have ha : Closed a := .inr (by decide)
  have hends : ∀ line ∈ lines, ∀ c ∈ line, ¬isLineEnd c := by
    simp [lines, isLineEnd]
  obtain ⟨es, hes, hjoin⟩ := hlines lines hends
  have hfault : ∃ fault, readEntries (a ++ b) = .error fault :=
    (herror (a ++ b)).2 ⟨b, by decide, by decide +kernel⟩
  refine ⟨ha, happend a b ha, hfault, hends, es, hes.length_eq.symm, ?_, ?_⟩
  · exact hjoin lines (by decide) rfl _ (by decide) true
  · exact hjoin padded (by decide) (by decide) _ (by decide) false

end Logbook
