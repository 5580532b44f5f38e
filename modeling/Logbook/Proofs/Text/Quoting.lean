import Logbook.Proofs.Text.Finding
import Logbook.Text.Quoted

/-!
# Characters that stand for themselves

The characters of ASCII from the space to the tilde stand for themselves in a quoted text, apart
from the quote and the backslash (`Text.escape_eq_self`), so a text of them is quoted with no other
escapes (`Text.quotesPlainly_of_isPrintableAscii`). That none of them is hidden is told by the
beginnings of the tables: the runs of a table ascend, so what lies between two that follow each
other is in none.

Any text can be put between quotes if its own quotes and backslashes are protected by backslashes
(`Text.enclose`), and quoting does no more than this to a text that needs no other escapes
(`Text.quote_eq_enclose`).
-/

namespace Logbook

namespace CodeRanges

variable {code : Nat}

theorem exists_run_of_holds {runs : Array (Nat × Nat)} {lo hi : Nat}
    (h : holds runs code lo hi) : ∃ run ∈ runs, run.1 ≤ code ∧ code ≤ run.2 := by
  fun_induction holds runs code lo hi with
  | case1 => cases h
  | case2 lo hi hlt mid first last hsome hfirst ih => exact ih h
  | case3 lo hi hlt mid first last hsome hfirst hlast ih => exact ih h
  | case4 lo hi hlt mid first last hsome hfirst hlast =>
    exact ⟨_, Array.mem_of_getElem? hsome, Nat.le_of_not_lt hfirst, Nat.le_of_not_lt hlast⟩
  | case5 => cases h

theorem exists_run_of_contains {s : CodeRanges} (h : s.contains code) :
    ∃ run ∈ s.runs.toList, run.1 ≤ code ∧ code ≤ run.2 := by
  obtain ⟨run, hrun, hcode⟩ := exists_run_of_holds h
  exact ⟨run, Array.mem_toList_iff.2 hrun, hcode⟩

theorem le_of_mem_runsFrom {prior : Nat} {distances : List Nat} {run : Nat × Nat}
    (h : run ∈ runsFrom prior distances) : prior ≤ run.1 := by
  induction prior, distances using runsFrom.induct with
  | case1 prior gap length rest ih =>
    rcases List.mem_cons.1 h with rfl | h
    · exact Nat.le_add_right ..
    · exact Nat.le_trans (by omega) (ih h)
  | case2 prior distances hshort =>
    rw [runsFrom.eq_2 _ _ hshort] at h
    exact absurd h List.not_mem_nil

/-- The first distance of a written set is its first word. -/
theorem numbers_append {w cs : List Char} (hne : w ≠ []) (hw : w.all fun c => !Text.isBlank c) :
    numbers (String.ofList (w ++ ' ' :: cs)) = number w :: numbers (String.ofList cs) := by
  have hplain : ∀ c ∈ w, ¬Text.isBlank c := by simpa using hw
  simp only [numbers, String.toList_ofList, Text.words_append_cons hne hplain (c := ' ') rfl,
    List.map_cons]

end CodeRanges

namespace Text

open CodeRanges

set_option maxRecDepth 20000 in
/-- The controls come first, and the next of those that cannot be shown is the last one of ASCII. -/
theorem runs_unprintable : ∃ rest,
    Property.unprintable.runs.toList = (0, 0x1F) :: (0x7F, 0xA0) :: runsFrom 0xA0 rest := by
  obtain ⟨cs, htable⟩ : ∃ cs, Property.unprintable = .ofText (String.ofList ("0".toList ++
    ' ' :: ("v".toList ++ ' ' :: ("2o".toList ++ ' ' :: ("x".toList ++ ' ' :: cs))))) := ⟨_, rfl⟩
  refine ⟨numbers (String.ofList cs), ?_⟩
  rw [htable, ofText, numbers_append (by decide) (by decide),
    numbers_append (by decide) (by decide), numbers_append (by decide) (by decide),
    numbers_append (by decide) (by decide)]
  rfl

set_option maxRecDepth 20000 in
theorem runs_graphemeExtend : ∃ rest,
    Property.graphemeExtend.runs.toList = (0x300, 0x36F) :: runsFrom 0x36F rest := by
  obtain ⟨cs, htable⟩ : ∃ cs, Property.graphemeExtend = .ofText (String.ofList
    ("lc".toList ++ ' ' :: ("33".toList ++ ' ' :: cs))) := ⟨_, rfl⟩
  refine ⟨numbers (String.ofList cs), ?_⟩
  rw [htable, ofText, numbers_append (by decide) (by decide),
    numbers_append (by decide) (by decide)]
  rfl

theorem not_isHidden {c : Char} (h : 0x20 ≤ c.toNat) (h' : c.toNat < 0x7F) : ¬isHidden c := by
  have hprintable : ¬Property.unprintable.contains c.toNat := fun hcontains => by
    obtain ⟨run, hrun, hfirst, hlast⟩ := exists_run_of_contains hcontains
    obtain ⟨rest, hruns⟩ := runs_unprintable
    rw [hruns] at hrun
    rcases List.mem_cons.1 hrun with rfl | hrun
    · exact absurd hlast (by omega)
    rcases List.mem_cons.1 hrun with rfl | hrun
    · exact absurd hfirst (by omega)
    · have := le_of_mem_runsFrom hrun
      omega
  have hfillers : ¬fillers.contains c.toNat := by
    simp [fillers]
    omega
  have hextend : ¬Property.graphemeExtend.contains c.toNat := fun hcontains => by
    obtain ⟨run, hrun, hfirst, hlast⟩ := exists_run_of_contains hcontains
    obtain ⟨rest, hruns⟩ := runs_graphemeExtend
    rw [hruns] at hrun
    rcases List.mem_cons.1 hrun with rfl | hrun
    · exact absurd hfirst (by omega)
    · have := le_of_mem_runsFrom hrun
      omega
  simp only [isHidden, hprintable, hfillers, hextend, Bool.false_and, Bool.or_false,
    Bool.false_eq_true, not_false_eq_true]

theorem escape_eq_self {c : Char} (h : 0x20 ≤ c.toNat) (h' : c.toNat < 0x7F) (hquote : c ≠ '"')
    (hbackslash : c ≠ '\\') : escape c = [c] := by
  have hcontrol : ∀ d : Char, d.toNat < 0x20 → c ≠ d := by
    rintro d hd rfl
    omega
  have hzero : c.toNat ≠ 0 := by omega
  simp only [escape, hquote, hbackslash, hcontrol '\n' (by decide), hcontrol '\r' (by decide),
    hcontrol '\t' (by decide), hzero, not_isHidden h h', if_false, Bool.false_eq_true]

/-- A text that is quoted with no other escapes than those of quotes and backslashes. -/
def QuotesPlainly (cs : List Char) : Prop :=
  ∀ c ∈ cs, c = '"' ∨ c = '\\' ∨ escape c = [c]

/-- Whether a text is made of the characters of ASCII from the space to the tilde. -/
def isPrintableAscii (cs : List Char) : Bool :=
  cs.all fun c => 0x20 ≤ c.toNat && c.toNat < 0x7F

theorem quotesPlainly_of_isPrintableAscii {cs : List Char} (h : isPrintableAscii cs) :
    QuotesPlainly cs := by
  intro c hc
  have hrange := List.all_eq_true.1 h c hc
  rw [Bool.and_eq_true, decide_eq_true_eq, decide_eq_true_eq] at hrange
  by_cases hquote : c = '"'
  · exact .inl hquote
  by_cases hbackslash : c = '\\'
  · exact .inr (.inl hbackslash)
  · exact .inr (.inr (escape_eq_self hrange.1 hrange.2 hquote hbackslash))

/-- A text with a backslash in front of every backslash and of every quote of a kind. -/
def protect (quote : Char) (cs : List Char) : List Char :=
  cs.flatMap fun c => if c = '\\' ∨ c = quote then ['\\', c] else [c]

/-- A text between quotes of a kind, protected from them. -/
def enclose (quote : Char) (cs : List Char) : List Char :=
  quote :: protect quote cs ++ [quote]

theorem protect_cons (quote c : Char) (cs : List Char) : protect quote (c :: cs) =
    (if c = '\\' ∨ c = quote then ['\\', c] else [c]) ++ protect quote cs :=
  rfl

theorem protect_of_not_mem {quote : Char} {cs : List Char} (hbackslash : '\\' ∉ cs)
    (hquote : quote ∉ cs) : protect quote cs = cs := by
  induction cs with
  | nil => rfl
  | cons c cs ih =>
    obtain ⟨hbackslash, hbackslash'⟩ := not_or.1 (mt List.mem_cons.2 hbackslash)
    obtain ⟨hquote, hquote'⟩ := not_or.1 (mt List.mem_cons.2 hquote)
    rw [protect_cons, if_neg (not_or.2 ⟨Ne.symm hbackslash, Ne.symm hquote⟩),
      ih hbackslash' hquote', List.singleton_append]

theorem flatMap_escape {cs : List Char} (h : QuotesPlainly cs) :
    cs.flatMap escape = protect '"' cs := by
  induction cs with
  | nil => rfl
  | cons c cs ih =>
    obtain ⟨hc, hcs⟩ := List.forall_mem_cons.1 h
    rw [List.flatMap_cons, protect_cons, ih hcs]
    rcases hc with rfl | rfl | hself
    · have hescape : escape '"' = ['\\', '"'] := by decide
      rw [hescape, if_pos (.inr rfl)]
    · have hescape : escape '\\' = ['\\', '\\'] := by decide
      rw [hescape, if_pos (.inl rfl)]
    · -- A character that stands for itself is neither a quote nor a backslash.
      have hplain : ¬(c = '\\' ∨ c = '"') := by
        rintro (rfl | rfl)
        · exact absurd hself (by decide)
        · exact absurd hself (by decide)
      rw [hself, if_neg hplain]

theorem quote_eq_enclose {cs : List Char} (h : QuotesPlainly cs) : quote cs = enclose '"' cs := by
  rw [quote, enclose, flatMap_escape h]

end Text

end Logbook
