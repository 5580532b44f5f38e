import Logbook.Entry.View
import Logbook.Proofs.Text.Finding
import Logbook.Proofs.Text.Trimming

/-!
# The instant of a line

A line of text has its instant in one of its first words. A word that is read as an instant is read
as it stands, for what stands around it in a line is taken away before: no blank is part of a word,
and a bracket is never part of an instant (`Instant.not_mem_of_ofText?`), which is written in digits,
blanks and a few signs only. So a line keeps the instant that it has as a word
(`Entry.timestamp?_text`).

An instant with a blank in it is no word. Of a day and a time with a blank between them, the day is
the word, and it is an instant too: the line has the beginning of the day, and the time is lost
(`Entry.timestamp?_text_spaced`).
-/

namespace Logbook

open Text

namespace Instant

variable {c d : Char} {cs : List Char}

/-! ## What instants are written in -/

/-- Whether a character may stand in a written instant. -/
def isMark (c : Char) : Bool :=
  c.isDigit || isBlank c || c.toNat = 0x2212 || ['T', 't', 'Z', 'z', '-', '+', ':', '.'].contains c

theorem isMark_of_isDigit (h : c.isDigit) : isMark c := by
  rw [isMark, h]
  rfl

theorem isMark_of_mem_takeWhile (h : d ∈ cs.takeWhile Char.isDigit) : isMark d :=
  isMark_of_isDigit (List.all_eq_true.1 List.all_takeWhile d h)

theorem not_isBlank_of_not_isMark (hc : ¬isMark c) : ¬isBlank c := by
  intro h
  rw [isMark, h, Bool.or_true] at hc
  exact hc rfl

/-- What is no mark stands behind the marks in front. -/
theorem mem_drop_of_prefix (hc : ¬isMark c) {front : List Char} (h : front <+: cs)
    (hfront : ∀ d ∈ front, isMark d) (hmem : c ∈ cs) : c ∈ cs.drop front.length := by
  obtain ⟨back, rfl⟩ := h
  rw [List.drop_left]
  exact (List.mem_append.1 hmem).resolve_left fun hc' => hc (hfront c hc')

theorem mem_of_mem_cons (hc : ¬isMark c) (hd : isMark d) (hmem : c ∈ d :: cs) : c ∈ cs :=
  mem_drop_of_prefix hc (List.prefix_append [d] cs) (List.forall_mem_singleton.2 hd) hmem

theorem mem_drop_takeWhile (hc : ¬isMark c) (hmem : c ∈ cs) :
    c ∈ cs.drop (cs.takeWhile Char.isDigit).length :=
  mem_drop_of_prefix hc (List.takeWhile_prefix _) (fun _ => isMark_of_mem_takeWhile) hmem

theorem mem_of_char? (hc : ¬isMark c) (hd : isMark d) {rest : List Char}
    (h : char? d cs = some rest) (hmem : c ∈ cs) : c ∈ rest := by
  cases cs with
  | nil => cases h
  | cons e cs =>
    rw [char?] at h
    obtain ⟨rfl, hrest⟩ := Option.ite_none_right_eq_some.1 h
    exact Option.some.inj hrest ▸ mem_of_mem_cons hc hd hmem

theorem mem_of_exactly? (hc : ¬isMark c) {count : Nat} {r : Nat × List Char}
    (h : exactly? count cs = some r) (hmem : c ∈ cs) : c ∈ r.2 := by
  unfold exactly? at h
  obtain ⟨⟨hlength, hdigits⟩, h⟩ := Option.ite_none_right_eq_some.1 h
  cases h
  have hdrop := mem_drop_of_prefix hc (List.take_prefix count cs)
    (fun d hd => isMark_of_isDigit (List.all_eq_true.1 hdigits d hd)) hmem
  rwa [hlength] at hdrop

theorem mem_of_upTo? (hc : ¬isMark c) {limit : Nat} {r : Nat × List Char}
    (h : upTo? limit cs = some r) (hmem : c ∈ cs) : c ∈ r.2 := by
  unfold upTo? at h
  obtain ⟨-, h⟩ := Option.ite_none_left_eq_some.1 h
  cases h
  refine mem_drop_of_prefix hc ((List.takeWhile_prefix _).trans (List.take_prefix limit _))
    (fun _ => isMark_of_mem_takeWhile) ?_
  exact mem_dropWhile_of_not (not_isBlank_of_not_isMark hc) hmem

theorem mem_of_fraction? (hc : ¬isMark c) {r : Nat × List Char} (h : fraction? cs = some r)
    (hmem : c ∈ cs) : c ∈ r.2 := by
  unfold fraction? at h
  split at h
  next cs =>
    obtain ⟨-, h⟩ := Option.ite_none_left_eq_some.1 h
    cases h
    exact mem_dropWhile_of_not (fun hdigit => hc (isMark_of_isDigit hdigit))
      (mem_of_mem_cons hc (by decide) hmem)
  next =>
    cases h
    exact hmem

theorem mem_of_year? (hc : ¬isMark c) {r : Int × List Char} (h : year? cs = some r)
    (hmem : c ∈ cs) : c ∈ r.2 := by
  have hmem := mem_dropWhile_of_not (not_isBlank_of_not_isMark hc) hmem
  unfold year? at h
  split at h
  next ds heq =>
    obtain ⟨-, h⟩ := Option.ite_none_left_eq_some.1 h
    cases h
    exact mem_drop_takeWhile hc (mem_of_mem_cons hc (by decide) (heq ▸ hmem))
  next ds heq =>
    obtain ⟨-, h⟩ := Option.ite_none_left_eq_some.1 h
    cases h
    exact mem_drop_takeWhile hc (mem_of_mem_cons hc (by decide) (heq ▸ hmem))
  next =>
    obtain ⟨r, hyear, rfl⟩ := Option.map_eq_some_iff.1 h
    exact mem_of_upTo? hc hyear hmem

/-- What a part leaves behind goes on to the next ones, so that parts are read one by one. -/
theorem mem_bind {α β : Type} {x : Option α} {f : α → Option β} {rest : α → List Char}
    {P : β → Prop} (hx : ∀ a, x = some a → c ∈ cs → c ∈ rest a)
    (hf : ∀ a, c ∈ rest a → ∀ b, f a = some b → P b) (hmem : c ∈ cs) :
    ∀ b, (x >>= f) = some b → P b := by
  intro b hb
  obtain ⟨a, ha, hb⟩ := Option.bind_eq_some_iff.1 hb
  exact hf a (hx a ha hmem) b hb

theorem mem_of_offset? (hc : ¬isMark c) {r : Int × List Char} (h : offset? cs = some r)
    (hmem : c ∈ cs) : c ∈ r.2 := by
  cases cs with
  | nil => cases h
  | cons d cs =>
    simp only [offset?] at h
    split at h
    next hd =>
      cases h
      exact mem_of_mem_cons hc (by rcases hd with rfl | rfl <;> decide) hmem
    next =>
      obtain ⟨hd, h⟩ := Option.ite_none_right_eq_some.1 h
      have hmark : isMark d := by
        rcases hd with rfl | rfl | hd
        · decide
        · decide
        · simp [isMark, hd]
      have hmem : c ∈ cs := mem_of_mem_cons hc hmark hmem
      refine mem_bind (P := fun r => c ∈ r.2) (fun _ => mem_of_exactly? hc) (fun _ => ?_) hmem r h
      refine mem_bind (fun _ => mem_of_char? hc (by decide)) (fun _ => ?_)
      refine mem_bind (fun _ => mem_of_exactly? hc) (fun _ hmem r h => ?_)
      obtain ⟨-, h⟩ := Option.ite_none_right_eq_some.1 h
      cases h
      exact hmem

/-! ## Instants have marks only -/

theorem mem_of_separator? (hc : ¬isMark c) {rest : List Char}
    (h : (char? 'T' cs <|> char? 't' cs <|> char? ' ' cs) = some rest) (hmem : c ∈ cs) :
    c ∈ rest := by
  simp only [Option.orElse_eq_orElse, Option.orElse_eq_or, Option.or_eq_some_iff] at h
  rcases h with h | ⟨-, h | ⟨-, h⟩⟩ <;> exact mem_of_char? hc (by decide) h hmem

/-- An instant is read only if nothing is left behind it. -/
theorem not_mem_of_end {p : Prop} [Decidable p] {t u : Int}
    (h : (if cs.isEmpty ∧ p then some u else none) = some t) : c ∉ cs := by
  obtain ⟨⟨hend, -⟩, -⟩ := Option.ite_none_right_eq_some.1 h
  rw [List.isEmpty_iff.1 hend]
  exact List.not_mem_nil

theorem not_mem_of_internet? (hc : ¬isMark c) {t : Int} (h : internet? cs = some t) :
    c ∉ cs := by
  -- Part by part, in the order in which they are read, the character is in what is left.
  intro hmem
  refine mem_bind (P := fun _ => False) (fun _ => mem_of_exactly? hc) (fun _ => ?_) hmem t h
  refine mem_bind (fun _ => mem_of_char? hc (by decide)) (fun _ => ?_)
  refine mem_bind (fun _ => mem_of_exactly? hc) (fun _ => ?_)
  refine mem_bind (fun _ => mem_of_char? hc (by decide)) (fun _ => ?_)
  refine mem_bind (fun _ => mem_of_exactly? hc) (fun _ => ?_)
  refine mem_bind (fun _ => mem_of_separator? hc) (fun _ => ?_)
  refine mem_bind (fun _ => mem_of_exactly? hc) (fun _ => ?_)
  refine mem_bind (fun _ => mem_of_char? hc (by decide)) (fun _ => ?_)
  refine mem_bind (fun _ => mem_of_exactly? hc) (fun _ => ?_)
  refine mem_bind (fun _ => mem_of_char? hc (by decide)) (fun _ => ?_)
  refine mem_bind (fun _ => mem_of_exactly? hc) (fun _ => ?_)
  refine mem_bind (fun _ => mem_of_fraction? hc) (fun _ => ?_)
  exact mem_bind (fun _ => mem_of_offset? hc) fun _ hmem _ h => not_mem_of_end h hmem

theorem mem_of_date? (hc : ¬isMark c) {r : Date × List Char} (h : date? cs = some r)
    (hmem : c ∈ cs) : c ∈ r.2 := by
  refine mem_bind (P := fun r => c ∈ r.2) (fun _ => mem_of_year? hc) (fun _ => ?_) hmem r h
  refine mem_bind (fun _ => mem_of_char? hc (by decide)) (fun _ => ?_)
  refine mem_bind (fun _ => mem_of_upTo? hc) (fun _ => ?_)
  refine mem_bind (fun _ => mem_of_char? hc (by decide)) (fun _ => ?_)
  refine mem_bind (fun _ => mem_of_upTo? hc) (fun _ hmem r h => ?_)
  exact Option.some.inj h ▸ hmem

theorem not_mem_of_clock? (hc : ¬isMark c) {date : Date} {t : Int} (h : clock? date cs = some t) :
    c ∉ cs := by
  intro hmem
  refine mem_bind (P := fun _ => False) (fun _ => mem_of_upTo? hc) (fun _ => ?_) hmem t h
  refine mem_bind (fun _ => mem_of_char? hc (by decide)) (fun _ => ?_)
  refine mem_bind (fun _ => mem_of_upTo? hc) (fun _ => ?_)
  refine mem_bind (fun _ => mem_of_char? hc (by decide)) (fun _ => ?_)
  refine mem_bind (fun _ => mem_of_upTo? hc) (fun _ => ?_)
  exact mem_bind (fun _ => mem_of_fraction? hc) fun _ hmem _ h => not_mem_of_end h hmem

theorem not_mem_of_joined? (hc : ¬isMark c) {t : Int} (h : joined? cs = some t) :
    c ∉ cs := by
  intro hmem
  refine mem_bind (P := fun _ => False) (fun _ => mem_of_date? hc) (fun _ => ?_) hmem t h
  exact mem_bind (fun _ => mem_of_char? hc (by decide)) fun _ hmem _ h =>
    not_mem_of_clock? hc h hmem

theorem not_mem_of_spaced? (hc : ¬isMark c) {t : Int} (h : spaced? cs = some t) :
    c ∉ cs := by
  intro hmem
  refine mem_bind (P := fun _ => False) (fun _ => mem_of_date? hc) (fun _ hmem _ h => ?_) hmem t h
  exact not_mem_of_clock? hc h (mem_dropWhile_of_not (not_isBlank_of_not_isMark hc) hmem)

theorem not_mem_of_day? (hc : ¬isMark c) {t : Int} (h : day? cs = some t) : c ∉ cs := by
  intro hmem
  exact mem_bind (P := fun _ => False) (fun _ => mem_of_date? hc)
    (fun _ hmem _ h => not_mem_of_end h hmem) hmem t h

/-- An instant is written in marks. -/
theorem not_mem_of_ofText? (hc : ¬isMark c) {s : String} {t : Int} (h : ofText? s = some t) :
    c ∉ s.toList := by
  intro hmem
  have hmem := mem_trim_of_not_isBlank (not_isBlank_of_not_isMark hc) hmem
  simp only [ofText?, Option.orElse_eq_orElse, Option.orElse_eq_or, Option.or_eq_some_iff] at h
  rcases h with h | ⟨-, h | ⟨-, h | ⟨-, h⟩⟩⟩
  · exact not_mem_of_internet? hc h hmem
  · exact not_mem_of_joined? hc h hmem
  · exact not_mem_of_spaced? hc h hmem
  · exact not_mem_of_day? hc h hmem

/-- Brackets around an instant are never a part of it. -/
theorem strip_brackets {ts : List Char} {t : Int} (h : ofText? (String.ofList ts) = some t) :
    strip (fun c => c = '[' || c = ']') ts = ts := by
  refine strip_of_forall_not fun c hc hbracket => ?_
  have hmark : ¬isMark c := by
    rcases Bool.or_eq_true_iff.1 hbracket with h | h <;> rw [of_decide_eq_true h] <;> decide
  exact not_mem_of_ofText? hmark h (by rwa [String.toList_ofList])

end Instant

/-! ## Words of a line -/

namespace Entry

variable {w ts rest : List Char}

/-- A line begins with its first word, unless that is empty, and goes on with the second one. -/
theorem words_line (hw : ∀ c ∈ w, ¬isBlank c) (hne : ts ≠ []) (hts : ∀ c ∈ ts, ¬isBlank c) :
    words (w ++ ' ' :: (ts ++ ' ' :: rest)) =
      (if w = [] then [] else [w]) ++ ts :: words rest := by
  have hfirst : runs isBlank w = if w = [] then [] else [w] := by
    split
    next h => rw [h]; rfl
    next h => exact runs_of_forall_not h hw
  have hsecond : words (ts ++ ' ' :: rest) = ts :: words rest :=
    words_append_cons hne hts (by decide)
  rw [words, runs_append_cons (by decide), hfirst, ← words, hsecond]

/-- The second word is asked for its instant if the first one has none. -/
theorem leadingTime?_line (hw : ∀ c ∈ w, ¬isBlank c)
    (hnone : Instant.ofText? (String.ofList (strip (fun c => c = '[' || c = ']') w)) = none)
    (hts : ∀ c ∈ ts, ¬isBlank c) {t : Int} (ht : Instant.ofText? (String.ofList ts) = some t) :
    leadingTime? (w ++ ' ' :: (ts ++ ' ' :: rest)) = some t := by
  have hne : ts ≠ [] := by
    rintro rfl
    cases ht
  rw [leadingTime?, words_line hw hne hts]
  -- If there is no first word, the instant is in the first of the words, and else in the second.
  split
  · simp only [List.nil_append, List.take_succ_cons, List.findSome?_cons,
      Instant.strip_brackets ht, ht]
  · simp only [List.singleton_append, List.take_succ_cons, List.findSome?_cons, hnone,
      Instant.strip_brackets ht, ht]

/-- A line of a word, an instant without blanks and more: if the word is no instant itself, also
    between brackets, then the line has exactly the instant that is written in it. -/
theorem timestamp?_text {w ts rest : String} {t : Int} (hw : ∀ c ∈ w.toList, ¬isBlank c)
    (hnone : Instant.ofText? (String.ofList (strip (fun c => c = '[' || c = ']') w.toList)) = none)
    (hts : ∀ c ∈ ts.toList, ¬isBlank c) (ht : Instant.ofText? ts = some t) :
    (Entry.text (w ++ " " ++ ts ++ " " ++ rest)).timestamp? = some t := by
  have hline : (w ++ " " ++ ts ++ " " ++ rest).toList =
      w.toList ++ ' ' :: (ts.toList ++ ' ' :: rest.toList) := by
    simp
  rw [timestamp?, hline]
  exact leadingTime?_line hw hnone hts (by rwa [String.ofList_toList])

/-- An offset and a fraction, behind a word in brackets, and another instant further on. -/
theorem timestamp?_text_offset :
    let w := "[warn]"
    let ts := "2024-05-01T10:00:04.25-23:59"
    let rest := "2024-05-02 cache miss"
    (∀ c ∈ w.toList, ¬isBlank c) ∧
      Instant.ofText? (String.ofList (strip (fun c => c = '[' || c = ']') w.toList)) = none ∧
      (∀ c ∈ ts.toList, ¬isBlank c) ∧ Instant.ofText? ts = some 1714643944250 ∧
      (Entry.text (w ++ " " ++ ts ++ " " ++ rest)).timestamp? = some 1714643944250 := by
  intro w ts rest
  have hw : ∀ c ∈ w.toList, ¬isBlank c := List.any_eq_false.1 (by decide)
  have hnone : Instant.ofText?
      (String.ofList (strip (fun c => c = '[' || c = ']') w.toList)) = none := by decide +kernel
  have hts : ∀ c ∈ ts.toList, ¬isBlank c := List.any_eq_false.1 (by decide)
  have ht : Instant.ofText? ts = some 1714643944250 := by decide +kernel
  exact ⟨hw, hnone, hts, ht, timestamp?_text hw hnone hts ht⟩

/-- A day and a time with a blank between them are an instant, but in a line they are two words, and
    the first of them is one already: the beginning of the day. -/
theorem timestamp?_text_spaced :
    let w := "INFO"
    let ts := "2024-05-01 10:00:04"
    let rest := "billing: invoice sent"
    (∀ c ∈ w.toList, ¬isBlank c) ∧
      Instant.ofText? (String.ofList (strip (fun c => c = '[' || c = ']') w.toList)) = none ∧
      trim ts.toList = ts.toList ∧ Instant.ofText? ts = some 1714557604000 ∧
      (Entry.text (w ++ " " ++ ts ++ " " ++ rest)).timestamp? = some 1714521600000 := by
  intro w ts rest
  have hw : ∀ c ∈ w.toList, ¬isBlank c := List.any_eq_false.1 (by decide)
  have hnone : Instant.ofText?
      (String.ofList (strip (fun c => c = '[' || c = ']') w.toList)) = none := by decide +kernel
  have htrim : trim ts.toList = ts.toList := by decide
  have ht : Instant.ofText? ts = some 1714557604000 := by decide +kernel
  exact ⟨hw, hnone, htrim, ht, by decide +kernel⟩

end Entry

end Logbook
