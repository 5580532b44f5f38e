import Logbook.Proofs.Query.Signs
import Logbook.Proofs.Query.Spelling
import Mathlib.Data.List.Forall2

/-!
# Blanks between tokens

Blanks only keep tokens apart. The parts of a text that its tokens take (`Token.texts`) can be put
together again with any blanks between them, around them too: as long as there is a blank between
two of them, the text has the same tokens, at other places (`Token.cuts_of_spread`).

Nothing but what is told of an error looks at places. So such a text is the same query as before, or
free text as before, or one that still cannot be read (`Outcome.ofText_spread`).
-/

namespace Logbook

namespace Token

variable {afterComma : Bool} {c : Char} {cs ds gap text : List Char} {t : Token} {ts : List Token}
  {parts : List (List Char)} {position : Nat}

/-! ## Parts of a text -/

/-- The parts of a text that its tokens take, after a comma or not, and up to a literal that has no
    end. -/
def textsFrom (afterComma : Bool) : List Char → List (List Char)
  | [] => []
  | c :: cs =>
    if Text.isBlank c then textsFrom afterComma cs
    else match scan afterComma c cs with
      | .error _ => []
      | .ok (t, n) => (c :: cs.take n) :: textsFrom (t = .comma) (cs.drop n)
termination_by cs => cs.length
decreasing_by all_goals simp only [List.length_cons, List.length_drop]; omega

/-- The parts of a text that its tokens take. -/
def texts (s : String) : List (List Char) :=
  textsFrom false s.toList

/-- A part of a text that stands at a place is what a token takes: it begins where the token does,
    and spells it. -/
def Takes (position : Nat) (cs : List Char) (p : PlacedToken) (text : List Char) : Prop :=
  ∃ before after, cs = before ++ text ++ after ∧ p.position = position + Text.byteLength before ∧
    Spelled p.token text after

theorem Takes.after (before : List Char) {p : PlacedToken}
    (h : Takes (position + Text.byteLength before) cs p text) :
    Takes position (before ++ cs) p text := by
  obtain ⟨front, after, rfl, hposition, hspelled⟩ := h
  refine ⟨before ++ front, after, by simp only [List.append_assoc], ?_, hspelled⟩
  rw [hposition, Text.byteLength_append, Nat.add_assoc]

/-- Every token takes a part, and every part is taken by a token. -/
theorem takes_textsFrom (position : Nat) (afterComma : Bool) (cs : List Char) :
    List.Forall₂ (Takes position cs) (scanFrom position afterComma cs).list
      (textsFrom afterComma cs) := by
  induction position, afterComma, cs using scanFrom.induct with
  | case1 position afterComma =>
    rw [scanFrom, textsFrom]
    exact .nil
  | case2 position afterComma c cs hc ih =>
    rw [scanFrom, textsFrom, if_pos hc, if_pos hc]
    refine ih.imp fun p text h => Takes.after [c] ?_
    rw [Text.byteLength_cons]
    exact h
  | case3 position afterComma c cs hc fault ht =>
    rw [scanFrom, textsFrom, if_neg hc, if_neg hc, ht]
    exact .nil
  | case4 position afterComma c cs hc t n ht next ih =>
    rw [scanFrom, textsFrom, if_neg hc, if_neg hc, ht]
    have hfirst : Takes position (c :: cs) ⟨position, t⟩ (c :: cs.take n) :=
      ⟨[], cs.drop n, by simp, rfl, (scan_spelled hc ht).1⟩
    refine .cons hfirst (ih.imp fun p text h => ?_)
    have hrest : Takes position (c :: cs.take n ++ cs.drop n) p text := by
      refine Takes.after _ ?_
      rwa [Text.byteLength_cons, ← Nat.add_assoc]
    rwa [List.cons_append, List.take_append_drop] at hrest

/-! ## Putting parts together -/

/-- Parts in a row with blanks after each of them; only after the last one there may be none. -/
inductive Spread : List (List Char) → List Char → Prop
  | nil : Spread [] []
  | cons {part gap cs : List Char} {parts : List (List Char)} (hgap : ∀ c ∈ gap, Text.isBlank c)
      (hapart : parts ≠ [] → gap ≠ []) (h : Spread parts cs) :
      Spread (part :: parts) (part ++ gap ++ cs)

theorem Cuts.blanks (hgap : ∀ c ∈ gap, Text.isBlank c) (h : Cuts afterComma cs ts) :
    Cuts afterComma (gap ++ cs) ts := by
  induction gap with
  | nil => exact h
  | cons c gap ih =>
    obtain ⟨hc, hgap⟩ := List.forall_mem_cons.1 hgap
    exact .blank hc (ih hgap)

/-- After a part there is a blank or nothing. -/
theorem Spread.goesOn (h : Spread parts cs) (hgap : ∀ c ∈ gap, Text.isBlank c)
    (hapart : parts ≠ [] → gap ≠ []) (after : List Char) : GoesOnAs (gap ++ cs) after := by
  intro c hc
  cases gap with
  | cons d gap =>
    cases hc
    exact .inl (separates_of_isBlank (hgap _ List.mem_cons_self))
  | nil =>
    cases h with
    | nil => cases hc
    | cons => exact absurd rfl (hapart (List.cons_ne_nil _ _))

theorem cuts_of_spread (hfault : (scanFrom position afterComma cs).fault = none) :
    ∀ {ds}, Spread (textsFrom afterComma cs) ds →
      Cuts afterComma ds (kinds (scanFrom position afterComma cs).list) := by
  induction position, afterComma, cs using scanFrom.induct with
  | case1 position afterComma =>
    rintro ds h
    rw [textsFrom] at h
    rw [scanFrom]
    cases h
    exact .nil
  | case2 position afterComma c cs hc ih =>
    rw [textsFrom, if_pos hc]
    rw [scanFrom, if_pos hc] at hfault ⊢
    exact ih hfault
  | case3 position afterComma c cs hc fault ht =>
    rw [scanFrom, if_neg hc, ht] at hfault
    cases hfault
  | case4 position afterComma c cs hc t n ht next ih =>
    rintro ds h
    rw [textsFrom, if_neg hc, ht] at h
    rw [scanFrom, if_neg hc, ht] at hfault ⊢
    cases h with
    | @cons _ gap ds _ hgap hapart h =>
      have hlength : (cs.take n).length = n :=
        List.length_take_of_le ((scan_eq_ok_iff hc).1 ht).1
      have hscan : scan afterComma c (cs.take n ++ (gap ++ ds)) = .ok (t, (cs.take n).length) := by
        rw [hlength]
        exact scan_goesOn hc ht (h.goesOn hgap hapart _)
      rw [List.append_assoc]
      exact .cons hc hscan (.blanks hgap (ih hfault h))

end Token

/-! ## Outcomes -/

namespace Outcome

/-- Of two texts with the same tokens, what they are differs at most in what is told of an error. -/
theorem ofText_alike {s s' : String} (hs : (Token.ofText s).fault = none)
    (hs' : (Token.ofText s').fault = none)
    (hkinds : kinds (Token.ofText s').list = kinds (Token.ofText s).list) :
    (ofText s').query? = (ofText s).query? ∧ (ofText s').isFreeText = (ofText s).isFreeText ∧
      (ofText s').errors.length = (ofText s).errors.length := by
  have hread : ∀ q, Query.ofTokens s'.utf8ByteSize (Token.ofText s').list = .ok q ↔
      Query.ofTokens s.utf8ByteSize (Token.ofText s).list = .ok q := fun q => by
    rw [Query.ofTokens_eq_ok_iff, Query.ofTokens_eq_ok_iff, hkinds]
  rw [ofText_eq s, ofText_eq s', hs, hs', hkinds]
  split
  · cases h : Query.ofTokens s.utf8ByteSize (Token.ofText s).list with
    | ok q =>
      rw [(hread q).2 h]
      exact ⟨rfl, rfl, rfl⟩
    | error e =>
      cases h' : Query.ofTokens s'.utf8ByteSize (Token.ofText s').list with
      | ok q => exact absurd ((hread q).1 h') (by rw [h]; nofun)
      | error e' => exact ⟨rfl, rfl, rfl⟩
  · exact ⟨rfl, rfl, rfl⟩

/-- The parts of a text that its tokens take, with other blanks between them, have the same tokens
    and are the same query, or free text if the text is, or cannot be read either. -/
theorem ofText_spread {s : String} (h : (Token.ofText s).fault = none) {lead cs : List Char}
    (hlead : ∀ c ∈ lead, Text.isBlank c) (hspread : Token.Spread (Token.texts s) cs) :
    let s' := String.ofList (lead ++ cs)
    List.Forall₂ (Token.Takes 0 s.toList) (Token.ofText s).list (Token.texts s) ∧
      (Token.ofText s').fault = none ∧
      (Token.ofText s').list.map (·.token) = (Token.ofText s).list.map (·.token) ∧
      (ofText s').query? = (ofText s).query? ∧ (ofText s').isFreeText = (ofText s).isFreeText ∧
      (ofText s').errors.length = (ofText s).errors.length := by
  intro s'
  have hcuts : Token.Cuts false s'.toList (kinds (Token.ofText s).list) := by
    rw [String.toList_ofList]
    exact .blanks hlead (Token.cuts_of_spread h hspread)
  obtain ⟨hfault, hkinds⟩ := hcuts.scanFrom 0
  exact ⟨Token.takes_textsFrom 0 false s.toList, hfault, hkinds, ofText_alike h hfault hkinds⟩

/-- A pattern with a blank in it, which stays, between blanks of several kinds. -/
theorem ofText_spread_pattern :
    let s := "matches(x,/p q/s)"
    let s' := "\tmatches ( x\r\n,\u3000/p q/s )"
    let q : Query := .call .matches "x" (.pattern "p q" "s")
    (Token.ofText s).fault = none ∧
      (∃ lead cs, s' = String.ofList (lead ++ cs) ∧ (∀ c ∈ lead, Text.isBlank c) ∧
        Token.Spread (Token.texts s) cs) ∧
      ofText s = .query q ∧ (ofText s').query? = some q := by
  intro s s' q
  have hfault : (Token.ofText s).fault = none := by decide +kernel
  have hblank : ∀ gap : List Char, gap.all Text.isBlank → ∀ c ∈ gap, Text.isBlank c :=
    fun _ => List.all_eq_true.1
  have hlead : ∀ c ∈ ['\t'], Text.isBlank c := hblank _ (by decide)
  have htexts : Token.texts s =
      ["matches".toList, ['('], ['x'], [','], "/p q/s".toList, [')']] := by
    decide +kernel
  have hspread : Token.Spread (Token.texts s) ("matches".toList ++ [' '] ++ (['('] ++ [' '] ++
      (['x'] ++ ['\r', '\n'] ++ ([','] ++ ['\u3000'] ++ ("/p q/s".toList ++ [' '] ++
        ([')'] ++ [] ++ [])))))) := by
    rw [htexts]
    refine .cons (hblank _ ?_) ?_ (.cons (hblank _ ?_) ?_ (.cons (hblank _ ?_) ?_
      (.cons (hblank _ ?_) ?_ (.cons (hblank _ ?_) ?_ (.cons (hblank _ ?_) ?_ .nil)))))
    all_goals decide
  have hs' : String.ofList (['\t'] ++ ("matches".toList ++ [' '] ++ (['('] ++ [' '] ++
      (['x'] ++ ['\r', '\n'] ++ ([','] ++ ['\u3000'] ++ ("/p q/s".toList ++ [' '] ++
        ([')'] ++ [] ++ []))))))) = s' := by
    decide +kernel
  have hquery : ofText s = .query q := by decide +kernel
  obtain ⟨-, -, -, hsame, -⟩ := ofText_spread hfault hlead hspread
  rw [hs', hquery] at hsame
  exact ⟨hfault, ⟨_, _, hs'.symm, hlead, hspread⟩, hquery, hsame⟩

end Outcome

end Logbook
