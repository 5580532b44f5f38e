import Logbook.Proofs.Query.Signs
import Logbook.Proofs.Query.Spelling

/-!
# Literals without an end

Cutting a text into tokens comes to a stop only at a literal that has no end: at a quote, or at a
slash after a comma, that is never closed. The tokens up to there are those of the text in front of
it, for no token looks further than at the character after it (`Token.ofText_eq_unclosed_iff`).

Whether such a text is free text is told by these tokens alone. So it does not matter what stands
from the opening of the literal on (`Outcome.ofText_unclosed`).
-/

namespace Logbook

theorem Text.byteLength_toList (s : String) : byteLength s.toList = s.utf8ByteSize := by
  have hlist : ∀ cs : List Char, byteLength cs = (String.ofList cs).utf8ByteSize := by
    intro cs
    induction cs with
    | nil => rfl
    | cons c cs ih =>
      rw [byteLength_cons, ih, ← List.singleton_append, String.ofList_append,
        String.utf8ByteSize_append, ← String.singleton_eq_ofList, String.utf8ByteSize_singleton]
  rw [hlist, String.ofList_toList]

namespace Token

variable {afterComma : Bool} {c : Char} {cs before rest after text : List Char} {t : Token}
  {n position place : Nat} {what : Unterminated} {tokens : List PlacedToken}

/-! ## What opens a literal -/

/-- There is no end to a literal in a text: wherever the delimiter stands, a backslash takes it
    along or an earlier one ends the literal. -/
def Unclosed (delimiter : Char) (cs : List Char) : Prop :=
  ∀ inner s rest, cs = inner ++ delimiter :: rest → ¬Enclosed delimiter inQuotes inner s

theorem quoted?_eq_none_iff {quote : Char} (hquote : quote ≠ '\\') :
    quoted? quote cs = none ↔ Unclosed quote cs := by
  constructor
  · rintro h inner s rest rfl henclosed
    rw [henclosed.quoted? hquote] at h
    cases h
  · intro h
    rw [Option.eq_none_iff_forall_ne_some]
    rintro ⟨s, n⟩ hs
    obtain ⟨inner, htake, henclosed⟩ := quoted?_enclosed hs
    refine h inner s (cs.drop n) ?_ henclosed
    rw [← List.singleton_append, ← List.append_assoc, ← htake, List.take_append_drop]

/-- Where a literal ends does not hang on what it means. -/
theorem Enclosed.meant {delimiter : Char} {meant : Char → List Char} {inner s : List Char}
    (h : Enclosed delimiter meant inner s) (meant' : Char → List Char) :
    ∃ s', Enclosed delimiter meant' inner s' := by
  induction h with
  | nil => exact ⟨[], .nil⟩
  | escaped c _ ih =>
    obtain ⟨s', h'⟩ := ih
    exact ⟨meant' c ++ s', .escaped c h'⟩
  | @plain c _ _ hbackslash hdelimiter _ ih =>
    obtain ⟨s', h'⟩ := ih
    exact ⟨c :: s', .plain hbackslash hdelimiter h'⟩

theorem slashed?_eq_none_iff : slashed? cs = none ↔ Unclosed '/' cs := by
  constructor
  · rintro h inner s rest rfl henclosed
    obtain ⟨s', henclosed'⟩ := henclosed.meant inSlashes
    rw [henclosed'.slashed?] at h
    cases h
  · intro h
    rw [Option.eq_none_iff_forall_ne_some]
    rintro ⟨s, n⟩ hs
    obtain ⟨inner, htake, henclosed⟩ := slashed?_enclosed hs
    obtain ⟨s', henclosed'⟩ := henclosed.meant inQuotes
    refine h inner s' (cs.drop n) ?_ henclosed'
    rw [← List.singleton_append, ← List.append_assoc, ← htake, List.take_append_drop]

/-- The character opens a literal, after a comma or not. -/
inductive Opens : Unterminated → Char → Bool → Prop
  | string {quote : Char} {afterComma : Bool} (h : quote = '"' ∨ quote = '\'') :
      Opens .string quote afterComma
  | pattern : Opens .pattern '/' true

theorem Opens.not_isBlank (h : Opens what c afterComma) : ¬Text.isBlank c := by
  cases h with
  | string h => rcases h with rfl | rfl <;> decide
  | pattern => decide

theorem opens_iff : Opens what c afterComma ↔
    what = .string ∧ (c = '"' ∨ c = '\'') ∨ what = .pattern ∧ c = '/' ∧ afterComma := by
  constructor
  · rintro (hquote | _)
    · exact .inl ⟨rfl, hquote⟩
    · exact .inr ⟨rfl, rfl, rfl⟩
  · rintro (⟨rfl, hquote⟩ | ⟨rfl, rfl, rfl⟩)
    · exact .string hquote
    · exact .pattern

theorem scan_eq_error_iff :
    scan afterComma c cs = .error what ↔ Opens what c afterComma ∧ Unclosed c cs := by
  constructor
  · intro h
    unfold scan at h
    split at h
    next => cases h
    next =>
    split at h
    next => cases h
    next =>
    split at h
    next => cases h
    next =>
    split at h
    next hquote =>
      have hbackslash : c ≠ '\\' := by rcases hquote with rfl | rfl <;> decide
      split at h
      next => cases h
      next hnone =>
        cases h
        exact ⟨.string hquote, (quoted?_eq_none_iff hbackslash).1 hnone⟩
    next =>
    split at h
    next hslash =>
      obtain ⟨rfl, rfl⟩ := hslash
      split at h
      next => cases h
      next hnone =>
        cases h
        exact ⟨.pattern, slashed?_eq_none_iff.1 hnone⟩
    next =>
    split at h
    next => cases h
    next => cases h
  · rintro ⟨hopens, hunclosed⟩
    cases hopens with
    | string hquote =>
      have hplain : c ≠ '(' ∧ c ≠ ')' ∧ c ≠ ',' ∧ c ≠ '\\' := by
        rcases hquote with rfl | rfl <;> decide
      rw [scan, if_neg hplain.1, if_neg hplain.2.1, if_neg hplain.2.2.1, if_pos hquote,
        (quoted?_eq_none_iff hplain.2.2.2).2 hunclosed]
    | pattern =>
      rw [scan, if_neg (by decide), if_neg (by decide), if_neg (by decide), if_neg (by decide),
        if_pos (by decide), slashed?_eq_none_iff.2 hunclosed]

/-! ## Where cutting stops -/

/-- Whether what follows some tokens stands after a comma. -/
def followsComma (afterComma : Bool) (tokens : List PlacedToken) : Bool :=
  (tokens.getLast?.map fun p => decide (p.token = .comma)).getD afterComma

theorem followsComma_cons (p : PlacedToken) (tokens : List PlacedToken) :
    followsComma afterComma (p :: tokens) = followsComma (p.token = .comma) tokens := by
  rw [followsComma, followsComma, List.getLast?_cons]
  cases tokens.getLast? <;> rfl

theorem followsComma_false_iff :
    followsComma false tokens ↔ ∃ p ∈ tokens.getLast?, p.token = .comma := by
  rw [followsComma]
  cases tokens.getLast? <;> simp

/-- The opening of a literal ends the token in front of it: a quote ends every token, and before a
    slash there is a comma. -/
theorem Spelled.opens (h : Spelled t text after) (hopens : Opens what c (t = .comma)) :
    Spelled t text (c :: rest) := by
  generalize hcomma : decide (t = .comma) = afterComma at hopens
  cases hopens with
  | string hquote =>
    refine h.goesOn ?_
    rintro _ ⟨⟩
    exact .inl (separates_of_isQuote hquote)
  | pattern =>
    obtain rfl := of_decide_eq_true hcomma
    cases h
    exact .comma

/-- In front of a literal without an end, a text is cut as it is alone. -/
theorem exists_unclosed (h : (scanFrom position afterComma cs).fault = some (what, place)) :
    ∃ before c rest, cs = before ++ c :: rest ∧ place = position + Text.byteLength before ∧
      scanFrom position afterComma before = ⟨(scanFrom position afterComma cs).list, none⟩ ∧
      Opens what c (followsComma afterComma (scanFrom position afterComma cs).list) ∧
      Unclosed c rest := by
  induction position, afterComma, cs using scanFrom.induct with
  | case1 position afterComma =>
    rw [scanFrom] at h
    cases h
  | case2 position afterComma c cs hc ih =>
    rw [scanFrom, if_pos hc] at h ⊢
    obtain ⟨before, d, rest, rfl, hplace, hbefore, hopens⟩ := ih h
    refine ⟨c :: before, d, rest, rfl, ?_, ?_, hopens⟩
    · rw [hplace, Text.byteLength_cons, Nat.add_assoc]
    · rw [scanFrom, if_pos hc, hbefore]
  | case3 position afterComma c cs hc fault ht =>
    rw [scanFrom, if_neg hc, ht] at h ⊢
    cases h
    refine ⟨[], c, cs, rfl, rfl, ?_, scan_eq_error_iff.1 ht⟩
    rw [scanFrom]
  | case4 position afterComma c cs hc t n ht next ih =>
    rw [scanFrom, if_neg hc, ht] at h ⊢
    obtain ⟨before, d, rest, hcs, hplace, hbefore, hopens⟩ := ih h
    have hlength : (cs.take n).length = n :=
      List.length_take_of_le ((scan_eq_ok_iff hc).1 ht).1
    refine ⟨c :: (cs.take n ++ before), d, rest, ?_, ?_, ?_, ?_⟩
    · rw [List.cons_append, List.append_assoc, ← hcs, List.take_append_drop]
    · rw [hplace, Text.byteLength_cons, Text.byteLength_append]
      omega
    · -- The token is followed by the same character as before, or by nothing.
      have hscan : scan afterComma c (cs.take n ++ before) = .ok (t, n) := by
        refine scan_goesOn hc ht fun e he => .inr ?_
        rw [hcs, List.head?_append, Option.mem_def.1 he]
        rfl
      rw [scanFrom, if_neg hc, hscan]
      dsimp only
      rw [List.take_left' hlength, List.drop_left' hlength, hbefore]
    · rw [followsComma_cons]
      exact hopens

/-- A literal without an end leaves the tokens in front of it as they are. -/
theorem scanFrom_unclosed (hfault : (scanFrom position afterComma before).fault = none)
    (hopens : Opens what c (followsComma afterComma (scanFrom position afterComma before).list))
    (hrest : Unclosed c rest) :
    scanFrom position afterComma (before ++ c :: rest) =
      ⟨(scanFrom position afterComma before).list,
        some (what, position + Text.byteLength before)⟩ := by
  induction position, afterComma, before using scanFrom.induct with
  | case1 position afterComma =>
    rw [scanFrom] at hopens
    have hscan : scan afterComma c rest = .error what := scan_eq_error_iff.2 ⟨hopens, hrest⟩
    rw [List.nil_append, scanFrom, scanFrom, if_neg hopens.not_isBlank, hscan]
    rfl
  | case2 position afterComma d before hd ih =>
    rw [scanFrom, if_pos hd] at hfault hopens ⊢
    rw [List.cons_append, scanFrom, if_pos hd, ih hfault hopens, Text.byteLength_cons,
      Nat.add_assoc]
  | case3 position afterComma d before hd fault ht =>
    rw [scanFrom, if_neg hd, ht] at hfault
    cases hfault
  | case4 position afterComma d before hd t n ht next ih =>
    rw [scanFrom, if_neg hd, ht] at hfault hopens ⊢
    rw [followsComma_cons] at hopens
    have hn := ((scan_eq_ok_iff hd).1 ht).1
    have hspelled := (scan_spelled hd ht).1
    have hscan : scan afterComma d (before ++ c :: rest) = .ok (t, n) := by
      rw [← List.take_append_drop n before, List.append_assoc]
      refine scan_respelled hd ht ?_
      cases hdrop : before.drop n with
      | nil =>
        rw [hdrop, scanFrom] at hopens
        exact hspelled.opens hopens
      | cons e more =>
        refine hspelled.goesOn ?_
        rintro _ ⟨⟩
        exact .inr (hdrop ▸ rfl)
    rw [List.cons_append, scanFrom, if_neg hd, hscan]
    dsimp only
    have hbytes : Text.byteLength before =
        Text.byteLength (before.take n) + Text.byteLength (before.drop n) := by
      rw [← Text.byteLength_append, List.take_append_drop]
    rw [List.take_append_of_le_length hn, List.drop_append_of_le_length hn, ih hfault hopens,
      Text.byteLength_cons, hbytes, ← Nat.add_assoc, ← Nat.add_assoc]

theorem ofText_eq_unclosed_iff {s : String} :
    ofText s = ⟨tokens, some (what, place)⟩ ↔
      ∃ front c rest, s = front ++ String.singleton c ++ rest ∧ front.utf8ByteSize = place ∧
        ofText front = ⟨tokens, none⟩ ∧ Opens what c (followsComma false tokens) ∧
        Unclosed c rest.toList := by
  constructor
  · intro h
    have hfault : (scanFrom 0 false s.toList).fault = some (what, place) := congrArg Tokens.fault h
    have htokens : (scanFrom 0 false s.toList).list = tokens := congrArg Tokens.list h
    obtain ⟨before, c, rest, hs, hplace, hbefore, hopens, hrest⟩ := exists_unclosed hfault
    rw [htokens] at hbefore hopens
    refine ⟨String.ofList before, c, String.ofList rest, ?_, ?_, ?_, hopens, ?_⟩
    · rw [← String.toList_inj]
      simpa using hs
    · rw [← Text.byteLength_toList, String.toList_ofList, hplace, Nat.zero_add]
    · rw [ofText, String.toList_ofList, hbefore]
    · rwa [String.toList_ofList]
  · rintro ⟨front, c, rest, rfl, rfl, hfront, hopens, hrest⟩
    have hlist : (scanFrom 0 false front.toList).list = tokens := congrArg Tokens.list hfront
    have hscan := scanFrom_unclosed (congrArg Tokens.fault hfront) (hlist.symm ▸ hopens) hrest
    rw [hlist, Nat.zero_add, Text.byteLength_toList] at hscan
    simpa [ofText] using hscan

/-- The bytes in front of a literal without an end are a text, and its tokens are those that there
    are. -/
theorem exists_front {s : String} (h : (ofText s).fault = some (what, place)) :
    ∃ front, front.toUTF8 = s.toUTF8.extract 0 place ∧ ofText front = ⟨(ofText s).list, none⟩ := by
  have hs : ofText s = ⟨(ofText s).list, some (what, place)⟩ := h ▸ rfl
  obtain ⟨front, c, rest, htext, rfl, hfront, -⟩ := ofText_eq_unclosed_iff.1 hs
  refine ⟨front, ?_, hfront⟩
  have hbytes : s.toUTF8 = front.toUTF8 ++ (String.singleton c ++ rest).toUTF8 := by
    rw [htext, String.append_assoc]
    exact String.toByteArray_append
  rw [hbytes]
  exact (ByteArray.extract_append_eq_left rfl).symm

end Token

namespace Outcome

theorem ofText_of_fault {s : String} {what : Unterminated} {place : Nat}
    (h : (Token.ofText s).fault = some (what, place)) :
    ofText s = if showsSign none (kinds (Token.ofText s).list) then
      .invalid ⟨.unterminated what, place⟩ else .freeText := by
  rw [ofText_eq, h]

/-- A text has a literal without an end exactly if there is a text of whole tokens in front of it,
    with which it goes on by opening a literal that is never closed. Whether it is free text is told
    by what stands in front of the literal. -/
theorem ofText_unclosed (s : String) :
    (∀ tokens what place, Token.ofText s = ⟨tokens, some (what, place)⟩ ↔
      ∃ front c rest, s = front ++ String.singleton c ++ rest ∧ front.utf8ByteSize = place ∧
        Token.ofText front = ⟨tokens, none⟩ ∧
        (what = .string ∧ (c = '"' ∨ c = '\'') ∨
          what = .pattern ∧ c = '/' ∧ ∃ last ∈ tokens.getLast?, last.token = .comma) ∧
        Token.Unclosed c rest.toList) ∧
    ∀ s' what what' place, (Token.ofText s).fault = some (what, place) →
      (Token.ofText s').fault = some (what', place) →
        s.toUTF8.extract 0 place = s'.toUTF8.extract 0 place →
          (ofText s).errors ≠ [] ∧ (ofText s').errors ≠ [] ∨
            ofText s = .freeText ∧ ofText s' = .freeText := by
  refine ⟨fun tokens what place => ?_, fun s' what what' place hs hs' hbytes => ?_⟩
  · rw [Token.ofText_eq_unclosed_iff]
    simp only [Token.opens_iff, Token.followsComma_false_iff]
  · -- Both have the same text in front of the literal, and with it the same tokens.
    have hsame : (Token.ofText s).list = (Token.ofText s').list := by
      obtain ⟨front, hfront, htokens⟩ := Token.exists_front hs
      obtain ⟨front', hfront', htokens'⟩ := Token.exists_front hs'
      obtain rfl : front = front' :=
        String.toByteArray_inj.1 (hfront.trans (hbytes.trans hfront'.symm))
      exact (Tokens.mk.inj (htokens.symm.trans htokens')).1
    rw [ofText_of_fault hs, ofText_of_fault hs', hsame]
    split
    · exact .inl ⟨List.cons_ne_nil _ _, List.cons_ne_nil _ _⟩
    · exact .inr ⟨rfl, rfl⟩

/-- A pattern and a text that are not closed, after the same text with a letter of two bytes. -/
theorem ofText_unclosed_comma :
    let s := "contains(é,/x\\/"
    let s' := "contains(é,'y) \\'"
    let front := "contains(é,"
    (Token.ofText s).fault = some (.pattern, 12) ∧ (Token.ofText s').fault = some (.string, 12) ∧
      s.toUTF8.extract 0 12 = s'.toUTF8.extract 0 12 ∧
      Token.ofText s = ⟨(Token.ofText front).list, some (.pattern, 12)⟩ ∧
      ((ofText s).errors ≠ [] ∧ (ofText s').errors ≠ [] ∨
        ofText s = .freeText ∧ ofText s' = .freeText) := by
  intro s s' front
  have hs : (Token.ofText s).fault = some (.pattern, 12) := by decide +kernel
  have hs' : (Token.ofText s').fault = some (.string, 12) := by decide +kernel
  have hbytes : s.toUTF8.extract 0 12 = s'.toUTF8.extract 0 12 := by decide +kernel
  have htokens : Token.ofText s = ⟨(Token.ofText front).list, some (.pattern, 12)⟩ := by
    decide +kernel
  exact ⟨hs, hs', hbytes, htokens, (ofText_unclosed s).2 s' _ _ 12 hs hs' hbytes⟩

end Outcome

end Logbook
