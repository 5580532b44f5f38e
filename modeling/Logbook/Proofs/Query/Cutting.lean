import Logbook.Proofs.Query.Reading
import Logbook.Proofs.Text.Quoting

/-!
# How texts are cut

Which tokens a text is cut into does not hang on its place, only on whether it stands after a comma
(`Token.Cuts`). A text is put together from the texts of its tokens: what stands in front of a text
and ends where its token ends adds this token (`Token.Cuts.word`, `Token.Cuts.operator` and so on).
A whole text in front of another one is cut as it is alone, if the other one does not go on with
its last token (`Token.Cuts.append`).

Of any text, also of one with a literal that has no end, every token begins with one of its
characters (`Token.exists_scan_of_mem`), and is made of what its kind may be made of
(`Token.proper_of_mem`).
-/

namespace Logbook

/-- The backslashes at the end of a text. -/
def Text.lastBackslashes (cs : List Char) : List Char :=
  cs.reverse.takeWhile (· = '\\')

namespace Token

variable {afterComma : Bool} {c : Char} {cs rest : List Char} {t : Token} {ts : List Token}
  {n position : Nat}

/-- The tokens of a text that has no literal without an end. -/
inductive Cuts : Bool → List Char → List Token → Prop
  | nil {afterComma : Bool} : Cuts afterComma [] []
  | blank {afterComma : Bool} {c : Char} {cs : List Char} {ts : List Token} (hc : Text.isBlank c)
      (h : Cuts afterComma cs ts) : Cuts afterComma (c :: cs) ts
  | token {afterComma : Bool} {c : Char} {cs : List Char} {t : Token} {n : Nat} {ts : List Token}
      (hc : ¬Text.isBlank c) (ht : scan afterComma c cs = .ok (t, n))
      (h : Cuts (t = .comma) (cs.drop n) ts) : Cuts afterComma (c :: cs) (t :: ts)

theorem cuts_kinds (h : (scanFrom position afterComma cs).fault = none) :
    Cuts afterComma cs (kinds (scanFrom position afterComma cs).list) := by
  induction position, afterComma, cs using scanFrom.induct with
  | case1 position afterComma =>
    rw [scanFrom]
    exact .nil
  | case2 position afterComma c cs hc ih =>
    rw [scanFrom, if_pos hc] at h ⊢
    exact .blank hc (ih h)
  | case3 position afterComma c cs hc fault ht =>
    rw [scanFrom, if_neg hc, ht] at h
    cases h
  | case4 position afterComma c cs hc t n ht next ih =>
    rw [scanFrom, if_neg hc, ht] at h ⊢
    exact .token hc ht (ih h)

theorem Cuts.scanFrom (h : Cuts afterComma cs ts) (position : Nat) :
    (Token.scanFrom position afterComma cs).fault = none ∧
      kinds (Token.scanFrom position afterComma cs).list = ts := by
  induction h generalizing position with
  | nil =>
    rw [Token.scanFrom]
    exact ⟨rfl, rfl⟩
  | blank hc _ ih =>
    rw [Token.scanFrom, if_pos hc]
    exact ih _
  | token hc ht _ ih =>
    rw [Token.scanFrom, if_neg hc, ht]
    exact ⟨(ih _).1, congrArg _ (ih _).2⟩

/-- A text of blanks has no tokens. -/
theorem Cuts.eq_nil_of_isBlankText (hcs : Text.isBlankText cs) (h : Cuts afterComma cs ts) :
    ts = [] := by
  induction h with
  | nil => rfl
  | blank _ _ ih => exact ih (List.all_eq_true.2 fun c hc =>
      List.all_eq_true.1 hcs c (List.mem_cons_of_mem _ hc))
  | token hc _ _ _ => exact absurd (List.all_eq_true.1 hcs _ List.mem_cons_self) hc

/-! ## Tokens of a text -/

/-- What the tokens of a text are made of. -/
def Proper : Token → Prop
  | .word s => s.toList ≠ [] ∧ (∀ c ∈ s.toList, isWordChar c) ∧ ofWord s = .word s
  | .pattern _ flags => ∀ c ∈ flags.toList, c.isAlpha
  | _ => True

/-- The characters with which a token may begin. -/
def BeginsWith (c : Char) : Token → Prop
  | .open => c = '('
  | .close => c = ')'
  | .comma => c = ','
  | .string _ => c = '"' ∨ c = '\''
  | .pattern _ _ => c = '/'
  | .operator _ => isOperatorChar c
  | .word _ | .and | .or | .not => isWordChar c

theorem ofWord_cases (s : String) :
    ofWord s = .and ∨ ofWord s = .or ∨ ofWord s = .not ∨ ofWord s = .word s := by
  unfold ofWord
  split
  · exact .inl rfl
  split
  · exact .inr (.inl rfl)
  split
  · exact .inr (.inr (.inl rfl))
  · exact .inr (.inr (.inr rfl))

/-- A run of word characters is one of the three connectives, or a word. -/
theorem ofWord_proper {w : List Char} (hc : isWordChar c) (hw : ∀ d ∈ w, isWordChar d) :
    (ofWord (String.ofList (c :: w))).BeginsWith c ∧ (ofWord (String.ofList (c :: w))).Proper := by
  rcases ofWord_cases (String.ofList (c :: w)) with h | h | h | h
  · exact h ▸ ⟨hc, trivial⟩
  · exact h ▸ ⟨hc, trivial⟩
  · exact h ▸ ⟨hc, trivial⟩
  · refine h ▸ ⟨hc, ?_, ?_, h⟩
    · rw [String.toList_ofList]
      exact List.cons_ne_nil c w
    · rw [String.toList_ofList]
      exact List.forall_mem_cons.2 ⟨hc, hw⟩

theorem isWordChar_iff : isWordChar c ↔ ¬Text.isBlank c ∧ ¬isOperatorChar c ∧ c ≠ '(' ∧ c ≠ ')' ∧
    c ≠ ',' ∧ c ≠ '"' ∧ c ≠ '\'' := by
  simp [isWordChar, and_assoc]

theorem mem_takeWhile_imp {p : Char → Bool} (h : c ∈ cs.takeWhile p) : p c :=
  List.all_eq_true.1 List.all_takeWhile c h

theorem scan_proper (hc : ¬Text.isBlank c) (h : scan afterComma c cs = .ok (t, n)) :
    t.BeginsWith c ∧ t.Proper := by
  unfold scan at h
  split at h
  next hopen => cases h; exact ⟨hopen, trivial⟩
  next hopen =>
  split at h
  next hclose => cases h; exact ⟨hclose, trivial⟩
  next hclose =>
  split at h
  next hcomma => cases h; exact ⟨hcomma, trivial⟩
  next hcomma =>
  split at h
  next hquote =>
    split at h
    next => cases h; exact ⟨hquote, trivial⟩
    next => cases h
  next hquote =>
  split at h
  next hslash =>
    split at h
    next =>
      cases h
      refine ⟨hslash.1, fun d hd => ?_⟩
      rw [String.toList_ofList] at hd
      exact mem_takeWhile_imp hd
    next => cases h
  next =>
  split at h
  next hop => cases h; exact ⟨hop, trivial⟩
  next hop =>
    cases h
    -- What none of the other rules takes is a character of a word.
    rw [not_or] at hquote
    have hword : isWordChar c :=
      isWordChar_iff.2 ⟨hc, hop, hopen, hclose, hcomma, hquote.1, hquote.2⟩
    exact ofWord_proper hword fun d hd => mem_takeWhile_imp hd

/-- Every token begins with a character of the text. -/
theorem exists_scan_of_mem {p : PlacedToken} (h : p ∈ (scanFrom position afterComma cs).list) :
    ∃ c ∈ cs, ¬Text.isBlank c ∧ ∃ afterComma cs n, scan afterComma c cs = .ok (p.token, n) := by
  induction position, afterComma, cs using scanFrom.induct with
  | case1 position afterComma =>
    rw [scanFrom] at h
    exact absurd h List.not_mem_nil
  | case2 position afterComma c cs hc ih =>
    rw [scanFrom, if_pos hc] at h
    obtain ⟨d, hd, hscan⟩ := ih h
    exact ⟨d, List.mem_cons_of_mem c hd, hscan⟩
  | case3 position afterComma c cs hc fault ht =>
    rw [scanFrom, if_neg hc, ht] at h
    exact absurd h List.not_mem_nil
  | case4 position afterComma c cs hc t n ht next ih =>
    rw [scanFrom, if_neg hc, ht] at h
    rcases List.mem_cons.1 h with rfl | h
    · exact ⟨c, List.mem_cons_self, hc, afterComma, cs, n, ht⟩
    · obtain ⟨d, hd, hscan⟩ := ih h
      exact ⟨d, List.mem_cons_of_mem c (List.mem_of_mem_drop hd), hscan⟩

theorem proper_of_mem {p : PlacedToken} (h : p ∈ (scanFrom position afterComma cs).list) :
    p.token.Proper := by
  obtain ⟨c, -, hc, _, _, _, hscan⟩ := exists_scan_of_mem h
  exact (scan_proper hc hscan).2

theorem Cuts.proper (h : Cuts afterComma cs ts) : ∀ t ∈ ts, t.Proper := by
  rintro t ht
  rw [← (h.scanFrom 0).2] at ht
  obtain ⟨p, hp, rfl⟩ := List.mem_map.1 ht
  exact proper_of_mem hp

/-! ## Texts of tokens -/

/-- A text does not begin with a character of a class. -/
def Ends (p : Char → Bool) (rest : List Char) : Prop :=
  ∀ c ∈ rest.head?, ¬p c

theorem Ends.nil (p : Char → Bool) : Ends p [] :=
  fun c hc => absurd hc (Option.not_mem_none c)

theorem Ends.cons {p : Char → Bool} (hc : ¬p c) : Ends p (c :: rest) := by
  rintro _ ⟨⟩
  exact hc

theorem Ends.takeWhile_append {p : Char → Bool} {w : List Char} (hw : ∀ c ∈ w, p c)
    (hrest : Ends p rest) : (w ++ rest).takeWhile p = w := by
  rw [List.takeWhile_append_of_pos hw]
  cases rest with
  | nil => exact List.append_nil w
  | cons c rest => rw [List.takeWhile_cons_of_neg (hrest c rfl), List.append_nil]

theorem not_isBlank_of_isOperatorChar (h : isOperatorChar c) : ¬Text.isBlank c := by
  simp only [isOperatorChar, Bool.or_eq_true, decide_eq_true_eq] at h
  rcases h with ((rfl | rfl) | rfl) | rfl <;> decide

theorem not_isBlank_of_isWordChar (h : isWordChar c) : ¬Text.isBlank c :=
  (isWordChar_iff.1 h).1

theorem scan_word_run {more : List Char} (hc : isWordChar c) (hmore : ∀ d ∈ more, isWordChar d)
    (hrest : Ends isWordChar rest) (hslash : ¬(c = '/' ∧ afterComma)) :
    scan afterComma c (more ++ rest) =
      .ok (ofWord (String.ofList (c :: more)), more.length) := by
  obtain ⟨-, hop, hopen, hclose, hcomma, hquote, hquote'⟩ := isWordChar_iff.1 hc
  simp only [scan, hopen, hclose, hcomma, hquote, hquote', hop, hslash, Bool.false_eq_true,
    or_false, if_false, Ends.takeWhile_append hmore hrest]

theorem scan_operator_run {more : List Char} (hc : isOperatorChar c)
    (hmore : ∀ d ∈ more, isOperatorChar d) (hrest : Ends isOperatorChar rest) :
    scan afterComma c (more ++ rest) =
      .ok (.operator (String.ofList (c :: more)), more.length) := by
  have hplain : c ≠ '(' ∧ c ≠ ')' ∧ c ≠ ',' ∧ c ≠ '"' ∧ c ≠ '\'' ∧ c ≠ '/' := by
    simp only [isOperatorChar, Bool.or_eq_true, decide_eq_true_eq] at hc
    rcases hc with ((rfl | rfl) | rfl) | rfl <;> decide
  obtain ⟨hopen, hclose, hcomma, hquote, hquote', hslash⟩ := hplain
  simp only [scan, hopen, hclose, hcomma, hquote, hquote', hslash, hc, false_and, or_false,
    if_false, if_true, Ends.takeWhile_append hmore hrest]

theorem scan_quoted {quote : Char} (hquote : quote = '"' ∨ quote = '\'') {inner : List Char}
    {s : String} (h : quoted? quote (inner ++ quote :: rest) = some (s.toList, inner.length + 1)) :
    scan afterComma quote (inner ++ [quote] ++ rest) =
      .ok (.string s, (inner ++ [quote]).length) := by
  have hplain : quote ≠ '(' ∧ quote ≠ ')' ∧ quote ≠ ',' := by
    rcases hquote with rfl | rfl <;> decide
  rw [List.append_assoc, List.singleton_append, scan, if_neg hplain.1, if_neg hplain.2.1,
    if_neg hplain.2.2, if_pos hquote, h]
  simp only [String.ofList_toList, List.length_append, List.length_singleton]

/-- After its closing slash a pattern has flags, as many letters as there are. -/
theorem scan_slashed {inner : List Char} {source flags : String}
    (h : slashed? (inner ++ '/' :: (flags.toList ++ rest)) =
      some (source.toList, inner.length + 1))
    (hflags : ∀ c ∈ flags.toList, c.isAlpha) (hrest : Ends Char.isAlpha rest) :
    scan true '/' (inner ++ '/' :: flags.toList ++ rest) =
      .ok (.pattern source flags, (inner ++ '/' :: flags.toList).length) := by
  have hdrop : (inner ++ '/' :: (flags.toList ++ rest)).drop (inner.length + 1) =
      flags.toList ++ rest := by
    rw [← List.drop_drop, List.drop_left]
    rfl
  have hlength : (inner ++ '/' :: flags.toList).length =
      inner.length + 1 + flags.toList.length := by
    rw [List.length_append, List.length_cons]
    omega
  rw [List.append_assoc, List.cons_append, hlength]
  simp [scan, h, hdrop, Ends.takeWhile_append hflags hrest]

/-- A text in front of another one that is taken as one token. -/
theorem Cuts.cons {more : List Char} (hc : ¬Text.isBlank c)
    (ht : scan afterComma c (more ++ rest) = .ok (t, more.length))
    (h : Cuts (t = .comma) rest ts) : Cuts afterComma (c :: more ++ rest) (t :: ts) := by
  rw [List.cons_append]
  refine .token hc ht ?_
  rwa [List.drop_left]

theorem Cuts.space (h : Cuts afterComma rest ts) : Cuts afterComma (' ' :: rest) ts :=
  .blank (by decide) h

theorem Cuts.open (h : Cuts false rest ts) : Cuts afterComma ('(' :: rest) (.open :: ts) :=
  .token (by decide) rfl h

theorem Cuts.close (h : Cuts false rest ts) : Cuts afterComma (')' :: rest) (.close :: ts) :=
  .token (by decide) rfl h

theorem Cuts.comma (h : Cuts true rest ts) : Cuts afterComma (',' :: rest) (.comma :: ts) :=
  .token (by decide) rfl h

theorem Cuts.word {w : List Char} (hne : w ≠ []) (hw : ∀ c ∈ w, isWordChar c)
    (hrest : Ends isWordChar rest) (h : Cuts false rest ts) :
    Cuts false (w ++ rest) (ofWord (String.ofList w) :: ts) := by
  obtain ⟨c, w, rfl⟩ := List.exists_cons_of_ne_nil hne
  obtain ⟨hc, hw⟩ := List.forall_mem_cons.1 hw
  refine .cons (not_isBlank_of_isWordChar hc) (scan_word_run hc hw hrest nofun) ?_
  rcases ofWord_cases (String.ofList (c :: w)) with h' | h' | h' | h' <;> rw [h'] <;> exact h

theorem Cuts.operator (op : CompareOp) (hrest : Ends isOperatorChar rest)
    (h : Cuts false rest ts) :
    Cuts false (op.symbol.toList ++ rest) (.operator op.symbol :: ts) := by
  obtain ⟨c, w, hsymbol, hc, hw⟩ : ∃ c w, op.symbol.toList = c :: w ∧ isOperatorChar c ∧
      ∀ d ∈ w, isOperatorChar d := by
    cases op <;> exact ⟨_, _, rfl, by decide, List.all_eq_true.1 rfl⟩
  have hscan : scan false c (w ++ rest) = .ok (.operator op.symbol, w.length) := by
    rw [scan_operator_run hc hw hrest, ← hsymbol, String.ofList_toList]
  rw [hsymbol]
  exact .cons (not_isBlank_of_isOperatorChar hc) hscan h

theorem quoted?_cons {quote : Char} (hc : c ≠ '\\') (cs : List Char) :
    quoted? quote (c :: cs) = if c = quote then some ([], 1) else
      (quoted? quote cs).map fun (s, n) => (c :: s, n + 1) :=
  quoted?.eq_4 _ _ _ (fun h => absurd h hc) fun _ _ h => absurd h hc

theorem slashed?_cons (hc : c ≠ '\\') (cs : List Char) :
    slashed? (c :: cs) = if c = '/' then some ([], 1) else
      (slashed? cs).map fun (s, n) => (c :: s, n + 1) :=
  slashed?.eq_4 _ _ (fun h => absurd h hc) fun _ _ h => absurd h hc

/-- A character that is read alone is no backslash. -/
theorem ne_backslash (hlone : c = '\\' → cs = [] → False)
    (hpair : ∀ d ds, c = '\\' → cs = d :: ds → False) : c ≠ '\\' := by
  intro hc
  cases cs with
  | nil => exact hlone hc rfl
  | cons d ds => exact hpair d ds hc rfl

/-- A protected text ends at the first quote that is not, and is read without its protection. -/
theorem quoted?_protect {quote : Char} (hquote : quote ≠ '\\') (cs rest : List Char) :
    quoted? quote (Text.protect quote cs ++ quote :: rest) =
      some (cs, (Text.protect quote cs).length + 1) := by
  induction cs with
  | nil => exact (quoted?_cons hquote rest).trans (if_pos rfl)
  | cons c cs ih =>
    rw [Text.protect_cons, List.append_assoc]
    by_cases hc : c = '\\' ∨ c = quote
    · rw [if_pos hc]
      simp only [List.cons_append, List.nil_append, quoted?, ih, Option.map_some, List.length_cons]
    · rw [if_neg hc, List.singleton_append, quoted?_cons fun h => hc (.inl h),
        if_neg fun h => hc (.inr h), ih]
      rfl

theorem Cuts.enclosed {quote : Char} (hquote : quote = '"' ∨ quote = '\'') (s : String)
    (h : Cuts false rest ts) :
    Cuts afterComma (Text.enclose quote s.toList ++ rest) (.string s :: ts) := by
  have hbackslash : quote ≠ '\\' := by rcases hquote with rfl | rfl <;> decide
  have hblank : ¬Text.isBlank quote := by rcases hquote with rfl | rfl <;> decide
  exact .cons hblank (scan_quoted hquote (quoted?_protect hbackslash s.toList rest)) h

theorem Cuts.quoted {s : String} (hs : Text.QuotesPlainly s.toList) (h : Cuts false rest ts) :
    Cuts afterComma (Query.quotedText s ++ rest) (.string s :: ts) := by
  rw [Query.quotedText, Text.quote_eq_enclose hs]
  exact .enclosed (.inl rfl) s h

/-- Two characters in front leave it as it is whether there is a backslash without a partner. -/
theorem even_lastBackslashes_cons_cons (d : Char) (cs : List Char) :
    (Text.lastBackslashes ('\\' :: d :: cs)).length % 2 = (Text.lastBackslashes cs).length % 2 := by
  simp only [Text.lastBackslashes, List.reverse_cons, List.append_assoc, List.singleton_append,
    List.takeWhile_append]
  split
  next hall =>
    rw [List.length_append, hall]
    by_cases hd : d = '\\'
    · simp [hd]
    · simp [hd]
  next => rfl

theorem lastBackslashes_cons (hc : c ≠ '\\') (cs : List Char) :
    Text.lastBackslashes (c :: cs) = Text.lastBackslashes cs := by
  simp only [Text.lastBackslashes, List.reverse_cons, List.takeWhile_append]
  split
  next hall =>
    rw [List.takeWhile_cons_of_neg (by simpa using hc), List.append_nil]
    exact ((List.takeWhile_prefix _).eq_of_length hall).symm
  next => rfl

/-- A pattern without slashes stands between slashes as it is, unless its last backslash would take
    the closing one with it. -/
theorem slashed?_append (hslash : '/' ∉ cs) (heven : (Text.lastBackslashes cs).length % 2 = 0)
    (rest : List Char) : slashed? (cs ++ '/' :: rest) = some (cs, cs.length + 1) := by
  induction cs using slashed?.induct with
  | case1 => rfl
  | case2 => cases heven
  | case3 d cs ih =>
    rw [even_lastBackslashes_cons_cons] at heven
    simp only [List.mem_cons, not_or] at hslash
    have hd : d ≠ '/' := Ne.symm hslash.2.1
    simp only [List.cons_append, slashed?, ih hslash.2.2 heven, Option.map_some, hd, if_false,
      List.length_cons]
  | case4 cs => exact absurd List.mem_cons_self hslash
  | case5 c cs hlone hpair hc ih =>
    have hbackslash := ne_backslash hlone hpair
    simp only [List.mem_cons, not_or] at hslash
    rw [lastBackslashes_cons hbackslash] at heven
    rw [List.cons_append, slashed?_cons hbackslash, if_neg hc, ih hslash.2 heven]
    rfl

theorem Cuts.pattern {source flags : String} (hslash : '/' ∉ source.toList)
    (heven : (Text.lastBackslashes source.toList).length % 2 = 0)
    (hflags : ∀ c ∈ flags.toList, c.isAlpha) (hrest : Ends Char.isAlpha rest)
    (h : Cuts false rest ts) : Cuts true (Query.argumentText (.pattern source flags) ++ rest)
      (.pattern source flags :: ts) := by
  have hslashed : slashed? (source.toList ++ '/' :: (flags.toList ++ rest)) =
      some (source.toList, source.toList.length + 1) := slashed?_append hslash heven _
  exact .cons (by decide) (scan_slashed hslashed hflags hrest) h

/-! ## Texts in front of others -/

theorem Ends.takeWhile_eq {p : Char → Bool} (hrest : Ends p rest) (cs : List Char) :
    (cs ++ rest).takeWhile p = cs.takeWhile p := by
  induction cs with
  | nil => exact Ends.takeWhile_append (List.forall_mem_nil _) hrest
  | cons c cs ih => rw [List.cons_append, List.takeWhile_cons, List.takeWhile_cons, ih]

theorem toNat_lt_of_isFieldChar (h : Query.isFieldChar c) : c.toNat < 128 := by
  delta Query.isFieldChar Char.isAlphanum Char.isAlpha Char.isUpper Char.isLower Char.isDigit at h
  simp only [Bool.or_eq_true, Bool.and_eq_true, decide_eq_true_eq, UInt32.le_iff_toNat_le] at h
  show c.val.toNat < 128
  rcases h with ((((((h | h) | h) | rfl) | rfl) | rfl) | rfl)
  · exact Nat.lt_of_le_of_lt h.2 (by decide)
  · exact Nat.lt_of_le_of_lt h.2 (by decide)
  · exact Nat.lt_of_le_of_lt h.2 (by decide)
  all_goals decide

theorem isWordChar_of_isFieldChar (h : Query.isFieldChar c) : isWordChar c := by
  have hall : ∀ code < 128, Query.isFieldChar (Char.ofNat code) → isWordChar (Char.ofNat code) := by
    decide
  have hchar := hall c.toNat (toNat_lt_of_isFieldChar h)
  rw [Char.ofNat_toNat] at hchar
  exact hchar h

theorem isWordChar_of_isAlpha (h : c.isAlpha) : isWordChar c :=
  isWordChar_of_isFieldChar (by simp [Query.isFieldChar, Char.isAlphanum, h])

/-- A quoted text ends at its quote, whatever follows. -/
theorem quoted?_append {quote : Char} {s : List Char} (h : quoted? quote cs = some (s, n))
    (rest : List Char) : n ≤ cs.length ∧ quoted? quote (cs ++ rest) = some (s, n) := by
  induction cs using quoted?.induct quote generalizing s n with
  | case1 => cases h
  | case2 => cases h
  | case3 c cs ih =>
    obtain ⟨⟨s', m⟩, hs, heq⟩ := Option.map_eq_some_iff.1 h
    cases heq
    obtain ⟨hle, htext⟩ := ih hs
    refine ⟨Nat.add_le_add_right hle 2, ?_⟩
    rw [List.cons_append, List.cons_append, quoted?, htext]
    rfl
  | case4 cs hlone hpair =>
    have hbackslash := ne_backslash hlone hpair
    rw [quoted?_cons hbackslash, if_pos rfl] at h
    cases h
    refine ⟨Nat.succ_le_succ (Nat.zero_le _), ?_⟩
    rw [List.cons_append, quoted?_cons hbackslash, if_pos rfl]
  | case5 c cs hlone hpair hc ih =>
    have hbackslash := ne_backslash hlone hpair
    rw [quoted?_cons hbackslash, if_neg hc] at h
    obtain ⟨⟨s', m⟩, hs, heq⟩ := Option.map_eq_some_iff.1 h
    cases heq
    obtain ⟨hle, htext⟩ := ih hs
    refine ⟨Nat.add_le_add_right hle 1, ?_⟩
    rw [List.cons_append, quoted?_cons hbackslash, if_neg hc, htext]
    rfl

/-- A pattern ends at its slash, whatever follows. -/
theorem slashed?_append_right {s : List Char} (h : slashed? cs = some (s, n))
    (rest : List Char) : n ≤ cs.length ∧ slashed? (cs ++ rest) = some (s, n) := by
  induction cs using slashed?.induct generalizing s n with
  | case1 => cases h
  | case2 => cases h
  | case3 c cs ih =>
    obtain ⟨⟨s', m⟩, hs, heq⟩ := Option.map_eq_some_iff.1 h
    cases heq
    obtain ⟨hle, htext⟩ := ih hs
    refine ⟨Nat.add_le_add_right hle 2, ?_⟩
    rw [List.cons_append, List.cons_append, slashed?, htext]
    rfl
  | case4 cs hlone hpair =>
    cases h
    exact ⟨Nat.succ_le_succ (Nat.zero_le _), rfl⟩
  | case5 c cs hlone hpair hc ih =>
    have hbackslash := ne_backslash hlone hpair
    rw [slashed?_cons hbackslash, if_neg hc] at h
    obtain ⟨⟨s', m⟩, hs, heq⟩ := Option.map_eq_some_iff.1 h
    cases heq
    obtain ⟨hle, htext⟩ := ih hs
    refine ⟨Nat.add_le_add_right hle 1, ?_⟩
    rw [List.cons_append, slashed?_cons hbackslash, if_neg hc, htext]
    rfl

theorem scan_append (h : scan afterComma c cs = .ok (t, n)) (hword : Ends isWordChar rest)
    (hop : Ends isOperatorChar rest) :
    n ≤ cs.length ∧ scan afterComma c (cs ++ rest) = .ok (t, n) := by
  unfold scan at h ⊢
  split at h
  next hopen => cases h; exact ⟨Nat.zero_le _, if_pos hopen⟩
  next hopen =>
  rw [if_neg hopen]
  split at h
  next hclose => cases h; exact ⟨Nat.zero_le _, if_pos hclose⟩
  next hclose =>
  rw [if_neg hclose]
  split at h
  next hcomma => cases h; exact ⟨Nat.zero_le _, if_pos hcomma⟩
  next hcomma =>
  rw [if_neg hcomma]
  split at h
  next hquote =>
    rw [if_pos hquote]
    split at h
    next s n hs =>
      cases h
      obtain ⟨hle, htext⟩ := quoted?_append hs rest
      rw [htext]
      exact ⟨hle, rfl⟩
    next => cases h
  next hquote =>
  rw [if_neg hquote]
  split at h
  next hslash =>
    rw [if_pos hslash]
    split at h
    next s n hs =>
      cases h
      obtain ⟨hle, htext⟩ := slashed?_append_right hs rest
      have halpha : Ends Char.isAlpha rest := fun d hd h => hword d hd (isWordChar_of_isAlpha h)
      have hflags : ((cs.drop n).takeWhile Char.isAlpha).length ≤ (cs.drop n).length :=
        (List.takeWhile_prefix _).length_le
      rw [List.length_drop] at hflags
      dsimp only
      rw [htext]
      dsimp only
      rw [List.drop_append_of_le_length hle, halpha.takeWhile_eq]
      exact ⟨by omega, rfl⟩
    next => cases h
  next hslash =>
  rw [if_neg hslash]
  split at h
  next hoperator =>
    cases h
    rw [if_pos hoperator, hop.takeWhile_eq]
    exact ⟨(List.takeWhile_prefix _).length_le, rfl⟩
  next hoperator =>
    cases h
    rw [if_neg hoperator, hword.takeWhile_eq]
    exact ⟨(List.takeWhile_prefix _).length_le, rfl⟩

/-- A text in front of another one is cut as it is alone, if the other one does not go on with a
    word or with an operator. -/
theorem Cuts.append {us : List Token} (h : Cuts afterComma cs ts) (hword : Ends isWordChar rest)
    (hop : Ends isOperatorChar rest) (hrest : ∀ afterComma, Cuts afterComma rest us) :
    Cuts afterComma (cs ++ rest) (ts ++ us) := by
  induction h with
  | nil => exact hrest _
  | blank hc _ ih => exact .blank hc ih
  | @token afterComma c cs t n ts hc ht _ ih =>
    obtain ⟨hle, hscan⟩ := scan_append ht hword hop
    rw [← List.drop_append_of_le_length hle] at ih
    exact .token hc hscan ih

end Token

end Logbook
