import Logbook.Proofs.Query.Cutting

/-!
# Where tokens stand

Cutting loses nothing of a text. Each token takes a part of it, its *span*, from the place of the
token up to a place of its own; the spans follow each other without overlap, and all that stands
outside of them is blanks (`Token.Tiling`, which holds of every text by `Token.ofText_tiling`).

What a span looks like is said by `Token.Spelled`: the span of a word or an operator is its text,
and such a run goes on as far as it can; between quotes and slashes a backslash takes the character
after it along (`Token.Enclosed`).

Reading one token gives its span (`Token.scan_spelled`), and a whole text is a row of these
(`Token.Row`), from which the places of the spans in it are told.
-/

namespace Logbook

namespace Text

theorem foldl_utf8Size (cs : List Char) (n : Nat) :
    cs.foldl (fun n c => n + c.utf8Size) n = n + byteLength cs := by
  unfold byteLength
  induction cs generalizing n with
  | nil => rfl
  | cons c cs ih =>
    rw [List.foldl_cons, List.foldl_cons, ih, ih (0 + c.utf8Size)]
    omega

theorem byteLength_append (cs ds : List Char) :
    byteLength (cs ++ ds) = byteLength cs + byteLength ds := by
  rw [byteLength, List.foldl_append, foldl_utf8Size]
  rfl

theorem byteLength_cons (c : Char) (cs : List Char) :
    byteLength (c :: cs) = c.utf8Size + byteLength cs := by
  rw [byteLength, List.foldl_cons, foldl_utf8Size, Nat.zero_add]

theorem byteLength_pos {cs : List Char} (h : cs ≠ []) : 0 < byteLength cs := by
  obtain ⟨c, cs, rfl⟩ := List.exists_cons_of_ne_nil h
  rw [byteLength_cons]
  exact Nat.add_pos_left c.utf8Size_pos _

end Text

namespace Token

variable {afterComma : Bool} {c : Char} {cs rest : List Char} {t : Token} {n position : Nat}

/-! ## Runs -/

theorem take_takeWhile (p : Char → Bool) (cs : List Char) :
    cs.take (cs.takeWhile p).length = cs.takeWhile p := by
  have htake : (cs.takeWhile p ++ cs.dropWhile p).take (cs.takeWhile p).length = cs.takeWhile p :=
    List.take_left
  rwa [List.takeWhile_append_dropWhile] at htake

/-- A run of a class is taken as far as it goes. -/
theorem ends_drop_takeWhile (p : Char → Bool) (cs : List Char) :
    Ends p (cs.drop (cs.takeWhile p).length) := by
  have hdrop : (cs.takeWhile p ++ cs.dropWhile p).drop (cs.takeWhile p).length = cs.dropWhile p :=
    List.drop_left
  rw [List.takeWhile_append_dropWhile] at hdrop
  rw [hdrop]
  intro c hc
  have hhead := List.head?_dropWhile_not p cs
  rw [Option.mem_def.1 hc] at hhead
  exact Bool.not_eq_true _ ▸ hhead

/-! ## Spelling -/

/-- The text between two delimiters, and what is meant by it: each backslash takes the character
    after it along, and stands with it for what `meant` says; no delimiter stands there alone. -/
inductive Enclosed (delimiter : Char) (meant : Char → List Char) : List Char → List Char → Prop
  | nil : Enclosed delimiter meant [] []
  | escaped {inner s : List Char} (c : Char) (h : Enclosed delimiter meant inner s) :
      Enclosed delimiter meant ('\\' :: c :: inner) (meant c ++ s)
  | plain {c : Char} {inner s : List Char} (hbackslash : c ≠ '\\') (hdelimiter : c ≠ delimiter)
      (h : Enclosed delimiter meant inner s) : Enclosed delimiter meant (c :: inner) (c :: s)

/-- What an escaped character stands for between quotes: itself. -/
def inQuotes (c : Char) : List Char :=
  [c]

/-- What an escaped character stands for between slashes: only a slash loses its backslash. -/
def inSlashes (c : Char) : List Char :=
  if c = '/' then ['/'] else ['\\', c]

/-- The text of a token, and how the text after it may go on: what is a run of characters of a class
    is not followed by another one of them. -/
inductive Spelled : Token → List Char → List Char → Prop
  | word {s : String} {after : List Char} (hne : s.toList ≠ [])
      (hchars : ∀ c ∈ s.toList, isWordChar c) (hword : s ≠ "AND" ∧ s ≠ "OR" ∧ s ≠ "NOT")
      (hafter : Ends isWordChar after) : Spelled (.word s) s.toList after
  | and {after : List Char} (hafter : Ends isWordChar after) : Spelled .and "AND".toList after
  | or {after : List Char} (hafter : Ends isWordChar after) : Spelled .or "OR".toList after
  | not {after : List Char} (hafter : Ends isWordChar after) : Spelled .not "NOT".toList after
  | operator {s : String} {after : List Char} (hne : s.toList ≠ [])
      (hchars : ∀ c ∈ s.toList, isOperatorChar c) (hafter : Ends isOperatorChar after) :
      Spelled (.operator s) s.toList after
  | open {after : List Char} : Spelled .open ['('] after
  | close {after : List Char} : Spelled .close [')'] after
  | comma {after : List Char} : Spelled .comma [','] after
  | string {quote : Char} {inner : List Char} {s : String} {after : List Char}
      (hquote : quote = '"' ∨ quote = '\'') (h : Enclosed quote inQuotes inner s.toList) :
      Spelled (.string s) (quote :: inner ++ [quote]) after
  | pattern {inner : List Char} {source flags : String} {after : List Char}
      (h : Enclosed '/' inSlashes inner source.toList) (hflags : ∀ c ∈ flags.toList, c.isAlpha)
      (hafter : Ends Char.isAlpha after) :
      Spelled (.pattern source flags) ('/' :: inner ++ '/' :: flags.toList) after

theorem Spelled.ne_nil {text after : List Char} (h : Spelled t text after) : text ≠ [] := by
  cases h with
  | word hne => exact hne
  | operator hne => exact hne
  | and => decide
  | or => decide
  | not => decide
  | _ => exact List.cons_ne_nil _ _

theorem spelled_ofWord {s : String} (hne : s.toList ≠ []) (hchars : ∀ c ∈ s.toList, isWordChar c)
    {after : List Char} (hafter : Ends isWordChar after) : Spelled (ofWord s) s.toList after := by
  unfold ofWord
  split
  next hand => exact hand ▸ .and hafter
  next hand =>
  split
  next hor => exact hor ▸ .or hafter
  next hor =>
  split
  next hnot => exact hnot ▸ .not hafter
  next hnot => exact .word hne hchars ⟨hand, hor, hnot⟩ hafter

theorem quoted?_enclosed {quote : Char} {s : List Char} (h : quoted? quote cs = some (s, n)) :
    ∃ inner, cs.take n = inner ++ [quote] ∧ Enclosed quote inQuotes inner s := by
  induction cs using quoted?.induct quote generalizing s n with
  | case1 => cases h
  | case2 => cases h
  | case3 c cs ih =>
    obtain ⟨⟨s', m⟩, hs, heq⟩ := Option.map_eq_some_iff.1 h
    cases heq
    obtain ⟨inner, htake, henclosed⟩ := ih hs
    exact ⟨'\\' :: c :: inner, congrArg ('\\' :: c :: ·) htake, .escaped c henclosed⟩
  | case4 cs hlone hpair =>
    rw [quoted?_cons (ne_backslash hlone hpair), if_pos rfl] at h
    cases h
    exact ⟨[], rfl, .nil⟩
  | case5 c cs hlone hpair hc ih =>
    have hbackslash := ne_backslash hlone hpair
    rw [quoted?_cons hbackslash, if_neg hc] at h
    obtain ⟨⟨s', m⟩, hs, heq⟩ := Option.map_eq_some_iff.1 h
    cases heq
    obtain ⟨inner, htake, henclosed⟩ := ih hs
    exact ⟨c :: inner, congrArg (c :: ·) htake, .plain hbackslash hc henclosed⟩

theorem slashed?_enclosed {s : List Char} (h : slashed? cs = some (s, n)) :
    ∃ inner, cs.take n = inner ++ ['/'] ∧ Enclosed '/' inSlashes inner s := by
  induction cs using slashed?.induct generalizing s n with
  | case1 => cases h
  | case2 => cases h
  | case3 c cs ih =>
    obtain ⟨⟨s', m⟩, hs, heq⟩ := Option.map_eq_some_iff.1 h
    cases heq
    obtain ⟨inner, htake, henclosed⟩ := ih hs
    have hmeant : (if c = '/' then c :: s' else '\\' :: c :: s') = inSlashes c ++ s' := by
      unfold inSlashes
      split
      next hslash => rw [hslash]; rfl
      next => rfl
    exact ⟨'\\' :: c :: inner, congrArg ('\\' :: c :: ·) htake, hmeant ▸ .escaped c henclosed⟩
  | case4 cs hlone hpair =>
    cases h
    exact ⟨[], rfl, .nil⟩
  | case5 c cs hlone hpair hc ih =>
    have hbackslash := ne_backslash hlone hpair
    rw [slashed?_cons hbackslash, if_neg hc] at h
    obtain ⟨⟨s', m⟩, hs, heq⟩ := Option.map_eq_some_iff.1 h
    cases heq
    obtain ⟨inner, htake, henclosed⟩ := ih hs
    exact ⟨c :: inner, congrArg (c :: ·) htake, .plain hbackslash hc henclosed⟩

/-- A character and the run after it, as a text of their own. -/
theorem cons_take_takeWhile (p : Char → Bool) (c : Char) (cs : List Char) :
    c :: cs.take (cs.takeWhile p).length = (String.ofList (c :: cs.takeWhile p)).toList := by
  rw [take_takeWhile, String.toList_ofList]

theorem toList_ofList_cons_takeWhile {p : Char → Bool} (hc : p c) (cs : List Char) :
    (String.ofList (c :: cs.takeWhile p)).toList ≠ [] ∧
      ∀ d ∈ (String.ofList (c :: cs.takeWhile p)).toList, p d := by
  rw [String.toList_ofList]
  exact ⟨List.cons_ne_nil _ _, List.forall_mem_cons.2 ⟨hc, fun d hd => mem_takeWhile_imp hd⟩⟩

theorem spelled_operator (hc : isOperatorChar c) :
    Spelled (.operator (String.ofList (c :: cs.takeWhile isOperatorChar)))
      (c :: cs.take (cs.takeWhile isOperatorChar).length)
      (cs.drop (cs.takeWhile isOperatorChar).length) := by
  obtain ⟨hne, hchars⟩ := toList_ofList_cons_takeWhile hc cs
  rw [cons_take_takeWhile]
  exact .operator hne hchars (ends_drop_takeWhile _ _)

theorem spelled_word (hc : isWordChar c) :
    Spelled (ofWord (String.ofList (c :: cs.takeWhile isWordChar)))
      (c :: cs.take (cs.takeWhile isWordChar).length)
      (cs.drop (cs.takeWhile isWordChar).length) := by
  obtain ⟨hne, hchars⟩ := toList_ofList_cons_takeWhile hc cs
  rw [cons_take_takeWhile]
  exact spelled_ofWord hne hchars (ends_drop_takeWhile _ _)

theorem spelled_string {quote : Char} (hquote : quote = '"' ∨ quote = '\'') {s : List Char}
    (h : quoted? quote cs = some (s, n)) :
    Spelled (.string (String.ofList s)) (quote :: cs.take n) (cs.drop n) := by
  obtain ⟨inner, htake, henclosed⟩ := quoted?_enclosed h
  rw [htake]
  exact .string hquote (by rwa [String.toList_ofList])

theorem spelled_pattern {s : List Char} (h : slashed? cs = some (s, n)) :
    Spelled (.pattern (String.ofList s) (String.ofList ((cs.drop n).takeWhile Char.isAlpha)))
      ('/' :: cs.take (n + ((cs.drop n).takeWhile Char.isAlpha).length))
      (cs.drop (n + ((cs.drop n).takeWhile Char.isAlpha).length)) := by
  obtain ⟨inner, htake, henclosed⟩ := slashed?_enclosed h
  have hspan : '/' :: cs.take (n + ((cs.drop n).takeWhile Char.isAlpha).length) =
      '/' :: inner ++ '/' :: (String.ofList ((cs.drop n).takeWhile Char.isAlpha)).toList := by
    rw [List.take_add, take_takeWhile, htake, String.toList_ofList, List.append_assoc]
    rfl
  rw [hspan, ← List.drop_drop]
  refine .pattern (by rwa [String.toList_ofList]) (fun d hd => ?_) (ends_drop_takeWhile _ _)
  rw [String.toList_ofList] at hd
  exact mem_takeWhile_imp hd

theorem ofWord_ne_pattern (s source flags : String) : ofWord s ≠ .pattern source flags := by
  intro heq
  rcases ofWord_cases s with h | h | h | h <;> rw [h] at heq <;> cases heq

/-- A token that is read takes the text by which it is spelled, and a pattern is only read after a
    comma. -/
theorem scan_spelled (hc : ¬Text.isBlank c) (h : scan afterComma c cs = .ok (t, n)) :
    Spelled t (c :: cs.take n) (cs.drop n) ∧
      ∀ source flags, t = .pattern source flags → afterComma := by
  unfold scan at h
  split at h
  next hopen => cases h; exact ⟨hopen ▸ .open, nofun⟩
  next hopen =>
  split at h
  next hclose => cases h; exact ⟨hclose ▸ .close, nofun⟩
  next hclose =>
  split at h
  next hcomma => cases h; exact ⟨hcomma ▸ .comma, nofun⟩
  next hcomma =>
  split at h
  next hquote =>
    split at h
    next s n hs => cases h; exact ⟨spelled_string hquote hs, nofun⟩
    next => cases h
  next hquote =>
  split at h
  next hslash =>
    split at h
    next s n hs =>
      cases h
      obtain ⟨rfl, hafter⟩ := hslash
      exact ⟨spelled_pattern hs, fun _ _ _ => hafter⟩
    next => cases h
  next =>
  split at h
  next hop => cases h; exact ⟨spelled_operator hop, nofun⟩
  next hop =>
    -- What is left is a character of a word, for it has none of the meanings above.
    cases h
    rw [not_or] at hquote
    have hword : isWordChar c :=
      isWordChar_iff.2 ⟨hc, hop, hopen, hclose, hcomma, hquote.1, hquote.2⟩
    exact ⟨spelled_word hword, fun _ _ heq => absurd heq (ofWord_ne_pattern _ _ _)⟩

/-! ## Rows of spans -/

/-- A token and the part of a text that it takes. -/
structure Span extends PlacedToken where
  /-- The number of bytes up to the end of the token. -/
  ending : Nat

/-- A text at a place as a row of spans with blanks between them. A pattern begins it only after a
    comma. -/
inductive Row : Nat → Bool → List Char → List Span → Prop
  | blanks {position : Nat} {afterComma : Bool} {cs : List Char} (h : ∀ c ∈ cs, Text.isBlank c) :
      Row position afterComma cs []
  | span {position : Nat} {afterComma : Bool} {gap text rest : List Char} {t : Token}
      {spans : List Span} (hgap : ∀ c ∈ gap, Text.isBlank c) (htext : Spelled t text rest)
      (hcomma : ∀ source flags, t = .pattern source flags → afterComma)
      (h : Row (position + Text.byteLength (gap ++ text)) (t = .comma) rest spans) :
      Row position afterComma (gap ++ text ++ rest)
        (⟨⟨position + Text.byteLength gap, t⟩, position + Text.byteLength (gap ++ text)⟩ :: spans)

variable {spans : List Span}

theorem Row.blank (hc : Text.isBlank c) (h : Row (position + c.utf8Size) afterComma cs spans) :
    Row position afterComma (c :: cs) spans := by
  cases h with
  | blanks h => exact .blanks (List.forall_mem_cons.2 ⟨hc, h⟩)
  | @span _ _ gap text rest t spans hgap htext hcomma h =>
    -- The blank joins those in front of the first span.
    have hgap' : ∀ d ∈ c :: gap, Text.isBlank d := List.forall_mem_cons.2 ⟨hc, hgap⟩
    simp only [Nat.add_assoc, ← Text.byteLength_cons, ← List.cons_append] at h ⊢
    exact .span hgap' htext hcomma h

theorem exists_row (h : (scanFrom position afterComma cs).fault = none) :
    ∃ spans, spans.map (·.toPlacedToken) = (scanFrom position afterComma cs).list ∧
      Row position afterComma cs spans := by
  induction position, afterComma, cs using scanFrom.induct with
  | case1 position afterComma =>
    rw [scanFrom]
    exact ⟨[], rfl, .blanks (List.forall_mem_nil _)⟩
  | case2 position afterComma c cs hc ih =>
    rw [scanFrom, if_pos hc] at h ⊢
    obtain ⟨spans, hspans, hrow⟩ := ih h
    exact ⟨spans, hspans, hrow.blank hc⟩
  | case3 position afterComma c cs hc fault ht =>
    rw [scanFrom, if_neg hc, ht] at h
    cases h
  | case4 position afterComma c cs hc t n ht next ih =>
    rw [scanFrom, if_neg hc, ht] at h ⊢
    obtain ⟨spans, hspans, hrow⟩ := ih h
    obtain ⟨hspelled, hcomma⟩ := scan_spelled hc ht
    refine ⟨⟨⟨position, t⟩, next⟩ :: spans, congrArg _ hspans, ?_⟩
    have hnext : next = position + Text.byteLength ([] ++ c :: cs.take n) := by
      rw [List.nil_append, Text.byteLength_cons, ← Nat.add_assoc]
    rw [hnext] at hrow ⊢
    have hgap : ∀ d ∈ ([] : List Char), Text.isBlank d := List.forall_mem_nil _
    have hfirst := Row.span hgap hspelled hcomma hrow
    rwa [List.nil_append, List.cons_append, List.take_append_drop] at hfirst

/-- A span stands where it says, counted from the place of the row. -/
theorem Row.stands (h : Row position afterComma cs spans) : ∀ span ∈ spans,
    ∃ before text after, cs = before ++ text ++ after ∧
      span.position = position + Text.byteLength before ∧
      span.ending = position + Text.byteLength (before ++ text) ∧
      Spelled span.token text after := by
  induction h with
  | blanks => exact List.forall_mem_nil _
  | @span position afterComma gap text rest t spans hgap htext hcomma h ih =>
    intro span hspan
    rcases List.mem_cons.1 hspan with rfl | hspan
    · exact ⟨gap, text, rest, rfl, rfl, rfl, htext⟩
    · obtain ⟨before, text', after, rfl, hposition, hending, hspelled⟩ := ih span hspan
      refine ⟨gap ++ text ++ before, text', after, ?_, ?_, ?_, hspelled⟩
      · simp only [List.append_assoc]
      · rw [hposition, Text.byteLength_append (gap ++ text), Nat.add_assoc]
      · rw [hending, List.append_assoc (gap ++ text), Text.byteLength_append (gap ++ text),
          Nat.add_assoc]

theorem Row.pairwise (h : Row position afterComma cs spans) :
    spans.Pairwise fun a b => a.ending ≤ b.position := by
  induction h with
  | blanks => exact .nil
  | span _ _ _ h ih =>
    refine .cons (fun span hspan => ?_) ih
    obtain ⟨before, _, _, _, hposition, _⟩ := h.stands span hspan
    exact hposition ▸ Nat.le_add_right _ _

/-- A character of two texts in a row is one of the first or of the second text. -/
theorem append_eq_append_cons {front back before after : List Char}
    (h : front ++ back = before ++ c :: after) : (∃ more, front = before ++ c :: more) ∨
      ∃ before', before = front ++ before' ∧ back = before' ++ c :: after := by
  rcases List.append_eq_append_iff.1 h with ⟨before', rfl, hback⟩ | ⟨more, rfl, hafter⟩
  · exact .inr ⟨before', rfl, hback⟩
  · rcases List.append_eq_cons_iff.1 hafter.symm with ⟨rfl, rfl⟩ | ⟨more', rfl, -⟩
    · exact .inr ⟨[], by simp⟩
    · exact .inl ⟨more', rfl⟩

/-- A character over which no span goes is a blank. -/
theorem Row.isBlank (h : Row position afterComma cs spans) {before after : List Char}
    (hcs : cs = before ++ c :: after)
    (hout : ∀ span ∈ spans, ¬(span.position ≤ position + Text.byteLength before ∧
      position + Text.byteLength before < span.ending)) : Text.isBlank c := by
  induction h generalizing before with
  | blanks h => exact h c (hcs ▸ List.mem_append_right _ List.mem_cons_self)
  | @span position afterComma gap text rest t spans hgap htext hcomma h ih =>
    obtain ⟨hfirst, hlater⟩ := List.forall_mem_cons.1 hout
    -- It stands in the blanks, in the first span or after it.
    rw [List.append_assoc] at hcs
    rcases append_eq_append_cons hcs with ⟨more, rfl⟩ | ⟨before', rfl, hlast⟩
    · exact hgap c (List.mem_append_right _ List.mem_cons_self)
    rcases append_eq_append_cons hlast with ⟨more, rfl⟩ | ⟨before'', rfl, hrest⟩
    · have hc := c.utf8Size_pos
      simp only [Text.byteLength_append, Text.byteLength_cons] at hfirst
      exact absurd ⟨by omega, by omega⟩ hfirst
    · refine ih hrest fun span hspan => ?_
      have hspan := hlater span hspan
      rwa [← List.append_assoc, Text.byteLength_append (gap ++ text), ← Nat.add_assoc] at hspan

/-- A pattern follows a comma, which may stand in front of the row. -/
theorem Row.comma (h : Row position afterComma cs spans) {earlier later : List Span} {span : Span}
    (hspans : spans = earlier ++ span :: later) {source flags : String}
    (hpattern : span.token = .pattern source flags) :
    earlier = [] ∧ afterComma ∨ ∃ comma ∈ earlier.getLast?, comma.token = .comma := by
  induction h generalizing earlier with
  | blanks => exact absurd hspans.symm (by simp)
  | @span position afterComma gap text rest t spans hgap htext hcomma h ih =>
    cases earlier with
    | nil =>
      obtain ⟨rfl, -⟩ := List.cons.inj hspans
      exact .inl ⟨rfl, hcomma _ _ hpattern⟩
    | cons first earlier =>
      obtain ⟨rfl, hlater⟩ := List.cons.inj hspans
      rw [List.getLast?_cons]
      rcases ih hlater with ⟨rfl, ht⟩ | ⟨comma, hmem, ht⟩
      · exact .inr ⟨_, rfl, of_decide_eq_true ht⟩
      · exact .inr ⟨comma, by rw [Option.mem_def.1 hmem]; rfl, ht⟩

/-! ## Tilings -/

/-- Some tokens of a text with their spans, outside of which it holds only blanks. -/
structure Tiling (cs : List Char) (spans : List Span) : Prop where
  /-- The places of the tokens ascend. -/
  ascending : spans.Pairwise fun a b => a.position < b.position
  /-- No token is empty or goes past the end of the text. -/
  nonempty : ∀ span ∈ spans, span.position < span.ending ∧ span.ending ≤ Text.byteLength cs
  /-- The spans do not overlap. -/
  apart : spans.Pairwise fun a b => a.ending ≤ b.position
  /-- A span begins and ends between characters, and its text is that of the token. -/
  spelled : ∀ span ∈ spans, ∃ before text after, cs = before ++ text ++ after ∧
    Text.byteLength before = span.position ∧ Text.byteLength (before ++ text) = span.ending ∧
    Spelled span.token text after
  /-- What is not in a span is a blank. -/
  blank : ∀ before c after, cs = before ++ c :: after →
    (∀ span ∈ spans,
      ¬(span.position ≤ Text.byteLength before ∧ Text.byteLength before < span.ending)) →
    Text.isBlank c
  /-- A pattern directly follows a comma. -/
  comma : ∀ earlier span later, spans = earlier ++ span :: later →
    ∀ source flags, span.token = .pattern source flags →
      ∃ comma ∈ earlier.getLast?, comma.token = .comma

theorem Row.tiling (h : Row 0 false cs spans) : Tiling cs spans := by
  have hspelled : ∀ span ∈ spans, ∃ before text after, cs = before ++ text ++ after ∧
      Text.byteLength before = span.position ∧ Text.byteLength (before ++ text) = span.ending ∧
      Spelled span.token text after := by
    intro span hspan
    obtain ⟨before, text, after, hcs, hposition, hending, htext⟩ := h.stands span hspan
    rw [Nat.zero_add] at hposition hending
    exact ⟨before, text, after, hcs, hposition.symm, hending.symm, htext⟩
  have hnonempty : ∀ span ∈ spans,
      span.position < span.ending ∧ span.ending ≤ Text.byteLength cs := by
    intro span hspan
    obtain ⟨before, text, after, rfl, hposition, hending, htext⟩ := hspelled span hspan
    have hlength := Text.byteLength_pos htext.ne_nil
    rw [← hposition, ← hending, Text.byteLength_append (before ++ text), Text.byteLength_append]
    omega
  refine ⟨?_, hnonempty, h.pairwise, hspelled, ?_, ?_⟩
  · refine h.pairwise.imp_of_mem fun ha _ hab => ?_
    exact Nat.lt_of_lt_of_le (hnonempty _ ha).1 hab
  · intro before c after hcs hout
    refine h.isBlank hcs fun span hspan => ?_
    rw [Nat.zero_add]
    exact hout span hspan
  · intro earlier span later hspans source flags hpattern
    rcases h.comma hspans hpattern with ⟨-, hfalse⟩ | hcomma
    · exact absurd hfalse Bool.false_ne_true
    · exact hcomma

/-- The tokens of a text that has no literal without an end tile it. -/
theorem ofText_tiling {s : String} (h : (ofText s).fault = none) :
    ∃ spans : List Span, spans.map (·.toPlacedToken) = (ofText s).list ∧
      Tiling s.toList spans := by
  obtain ⟨spans, hspans, hrow⟩ := exists_row h
  exact ⟨spans, hspans, hrow.tiling⟩

/-- Letters of two bytes, an operator next to a quote, escapes of both kinds, and a path that is no
    pattern. -/
theorem ofText_tiling_matches :
    let s := "größe!='it\\'s'AND matches(é.x, /a\\/\\d/i) /x/"
    let tokens : List PlacedToken := [⟨0, .word "größe"⟩, ⟨7, .operator "!="⟩, ⟨9, .string "it's"⟩,
      ⟨16, .and⟩, ⟨20, .word "matches"⟩, ⟨27, .open⟩, ⟨28, .word "é.x"⟩, ⟨32, .comma⟩,
      ⟨34, .pattern "a/\\d" "i"⟩, ⟨42, .close⟩, ⟨44, .word "/x/"⟩]
    (ofText s).fault = none ∧ (ofText s).list = tokens ∧
      ∃ spans : List Span, spans.map (·.toPlacedToken) = tokens ∧ Tiling s.toList spans := by
  intro s tokens
  have hfault : (ofText s).fault = none := by decide +kernel
  have htokens : (ofText s).list = tokens := by decide +kernel
  exact ⟨hfault, htokens, htokens ▸ ofText_tiling hfault⟩

end Token

end Logbook
