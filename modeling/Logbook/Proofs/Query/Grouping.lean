import Logbook.Proofs.Query.Nesting
import Logbook.Proofs.Query.Writing

/-!
# Queries put together

A text that is a query stays one as part of a longer text, if it stands in parentheses: the closing
one ends its last token (`Token.Cuts.group`), what it is derived from is derived as well inside of
the group, as long as there is room for it (`Query.Derives.group_of_nesting`), and the signs of its
conditions are signs of the longer text. So queries are joined and negated by their texts. That
there is room cannot be dispensed with (`Outcome.ofText_group_iff`).
-/

namespace Logbook

namespace Token

variable {afterComma : Bool} {cs cs₁ cs₂ rest : List Char} {ts ts₁ ts₂ us : List Token}

theorem Cuts.group (h : Cuts false cs ts) (hrest : Cuts false rest us) :
    Cuts afterComma ('(' :: (cs ++ ')' :: rest)) (.open :: (ts ++ .close :: us)) :=
  .open (h.append (.cons (by decide)) (.cons (by decide)) fun _ => .close hrest)

/-- Two groups with a word between them. -/
theorem Cuts.groups {w : List Char} (hne : w ≠ []) (hw : ∀ c ∈ w, isWordChar c)
    (h₁ : Cuts false cs₁ ts₁) (h₂ : Cuts false cs₂ ts₂) :
    Cuts false ('(' :: (cs₁ ++ ')' :: ' ' :: (w ++ ' ' :: '(' :: (cs₂ ++ [')']))))
      (.open :: (ts₁ ++ .close :: ofWord (String.ofList w) :: .open :: (ts₂ ++ [.close]))) :=
  h₁.group (.space (.word hne hw (.cons (by decide)) (.space (h₂.group .nil))))

end Token

namespace Query

variable {d : Nat} {w : List Token} {q r : Query}

theorem Derives.group_of_nesting (h : Derives .or 0 w q) (hd : d + (nesting w + 1) ≤ maxNesting) :
    Derives .not d (.open :: w ++ [.close]) q :=
  .primary (.group (by omega) (h.within (by omega)))

theorem HasMark.not (h : q.HasMark) : q.not.HasMark := by
  obtain ⟨leaf, hleaf, hmark⟩ := h
  exact ⟨leaf, leaves_not ▸ hleaf, hmark⟩

/-- A word that joins two queries to one with the conditions of both. -/
structure Joins (word : String) (join : Query → Query → Query) : Prop where
  ne_nil : word.toList ≠ []
  isWordChar : ∀ c ∈ word.toList, Token.isWordChar c
  leaves : ∀ q r, (join q r).leaves = q.leaves ++ r.leaves
  derives : ∀ {v w q r}, Derives .not 0 v q → Derives .not 0 w r →
    Derives .or 0 (v ++ Token.ofWord word :: w) (join q r)

theorem joins_and : Joins "AND" conj where
  ne_nil := by decide
  isWordChar := List.all_eq_true.1 (by decide)
  leaves _ _ := leaves_conj
  derives {v w q r} hv hw := by
    have hlinks : ∀ link ∈ [(w, r)], Derives .not 0 link.1 link.2 :=
      List.forall_mem_singleton.2 hw
    simpa [linked, joined, Token.ofWord] using (Derives.and hv hlinks).single_or

theorem joins_or : Joins "OR" disj where
  ne_nil := by decide
  isWordChar := List.all_eq_true.1 (by decide)
  leaves _ _ := leaves_disj
  derives {v w q r} hv hw := by
    have hlinks : ∀ link ∈ [(w, r)], Derives .and 0 link.1 link.2 :=
      List.forall_mem_singleton.2 hw.single_and
    simpa [linked, joined, Token.ofWord] using Derives.or hv.single_and hlinks

theorem Joins.hasMark {word : String} {join : Query → Query → Query} (hjoin : Joins word join)
    (h : q.HasMark) (r : Query) : (join q r).HasMark := by
  obtain ⟨leaf, hleaf, hmark⟩ := h
  exact ⟨leaf, hjoin.leaves q r ▸ List.mem_append_left _ hleaf, hmark⟩

end Query

namespace Outcome

open Query (maxNesting)

variable {s s₁ s₂ : String} {q q₁ q₂ : Query}

/-- How deep the groups and negations of a text nest. -/
def nesting (s : String) : Nat :=
  Query.nesting (kinds (Token.ofText s).list)

/-- Of tokens that are derived the query tells whether there is a sign among them. -/
theorem ofText_eq_query_iff_hasMark : ofText s = .query q ↔
    q.HasMark ∧ ∃ ts, Token.Cuts false s.toList ts ∧ Query.Derives .or 0 ts q := by
  have hsigns : ∀ {ts : List Token}, Query.Derives .or 0 ts q →
      (showsSign none ts ↔ q.HasMark) := fun hderives => by
    simpa [showsSign] using hderives.showsSign_iff (rfl : opensClause none) .nil
  rw [ofText_eq_query_iff]
  constructor
  · rintro ⟨ts, hcuts, hsign, hderives⟩
    exact ⟨(hsigns hderives).1 hsign, ts, hcuts, hderives⟩
  · rintro ⟨hmark, ts, hcuts, hderives⟩
    exact ⟨ts, hcuts, (hsigns hderives).2 hmark, hderives⟩

theorem exists_cuts_of_ofText (h : ofText s = .query q) : q.HasMark ∧ ∃ ts,
    Token.Cuts false s.toList ts ∧ Query.Derives .or 0 ts q ∧ Query.nesting ts = nesting s := by
  obtain ⟨hmark, ts, hcuts, hderives⟩ := ofText_eq_query_iff_hasMark.1 h
  exact ⟨hmark, ts, hcuts, hderives, congrArg Query.nesting (hcuts.scanFrom 0).2.symm⟩

theorem nesting_le (h : ofText s = .query q) : nesting s ≤ maxNesting := by
  obtain ⟨-, ts, -, hderives, hnesting⟩ := exists_cuts_of_ofText h
  exact hnesting ▸ hderives.nesting_le (Nat.zero_le _)

example : nesting "NOT (a=1 OR NOT contains(b, 'c')) AND NOT d=2" = 3 := by decide +kernel

theorem nesting_group (h : ofText s = .query q) : nesting ("(" ++ s ++ ")") = nesting s + 1 := by
  obtain ⟨-, ts, hcuts, hderives, hnesting⟩ := exists_cuts_of_ofText h
  have hgroup : Token.Cuts false ("(" ++ s ++ ")").toList (.open :: ts ++ [.close]) := by
    simpa using hcuts.group .nil
  rw [← hnesting, ← Query.nesting_group hderives.nests]
  exact congrArg Query.nesting (hgroup.scanFrom 0).2

theorem ofText_group (h : ofText s = .query q) (hroom : nesting s + 1 ≤ maxNesting) :
    ofText ("(" ++ s ++ ")") = .query q := by
  obtain ⟨hmark, ts, hcuts, hderives, hnesting⟩ := exists_cuts_of_ofText h
  have hgroup : Query.Derives .not 0 (.open :: ts ++ [.close]) q :=
    hderives.group_of_nesting (by omega)
  refine ofText_eq_query_iff_hasMark.2 ⟨hmark, _, ?_, hgroup.single_and.single_or⟩
  simpa using hcuts.group .nil

/-- No query stays one in parentheses for which there is no room. -/
theorem ofText_group_iff (h : ofText s = .query q) :
    ofText ("(" ++ s ++ ")") = .query q ↔ nesting s + 1 ≤ maxNesting :=
  ⟨fun hgroup => nesting_group h ▸ nesting_le hgroup, ofText_group h⟩

theorem ofText_not_group (h : ofText s = .query q) (hroom : nesting s + 2 ≤ maxNesting) :
    ofText ("NOT (" ++ s ++ ")") = .query q.not := by
  obtain ⟨hmark, ts, hcuts, hderives, hnesting⟩ := exists_cuts_of_ofText h
  have hnot : Query.Derives .not 0 (.not :: (.open :: ts ++ [.close])) q.not :=
    .not (by decide) (hderives.group_of_nesting (by omega))
  refine ofText_eq_query_iff_hasMark.2 ⟨hmark.not, _, ?_, hnot.single_and.single_or⟩
  have hword := Token.Cuts.word (w := "NOT".toList) (by decide) (List.all_eq_true.1 (by decide))
    (.cons (by decide)) (.space (hcuts.group .nil))
  simpa [Token.ofWord] using hword

theorem ofText_joined {word between : String} {join : Query → Query → Query}
    (hjoin : Query.Joins word join) (hbetween : between = ") " ++ word ++ " (")
    (h₁ : ofText s₁ = .query q₁) (h₂ : ofText s₂ = .query q₂)
    (hroom₁ : nesting s₁ + 1 ≤ maxNesting) (hroom₂ : nesting s₂ + 1 ≤ maxNesting) :
    ofText ("(" ++ s₁ ++ between ++ s₂ ++ ")") = .query (join q₁ q₂) := by
  obtain ⟨hmark, ts₁, hcuts₁, hderives₁, hnesting₁⟩ := exists_cuts_of_ofText h₁
  obtain ⟨-, ts₂, hcuts₂, hderives₂, hnesting₂⟩ := exists_cuts_of_ofText h₂
  have hchain := hjoin.derives (hderives₁.group_of_nesting (d := 0) (by omega))
    (hderives₂.group_of_nesting (d := 0) (by omega))
  refine ofText_eq_query_iff_hasMark.2 ⟨hjoin.hasMark hmark q₂, _, ?_, hchain⟩
  have hgroups := Token.Cuts.groups hjoin.ne_nil hjoin.isWordChar hcuts₁ hcuts₂
  simpa [hbetween] using hgroups

/-- Queries are joined, negated and put into parentheses by their texts, unless there is no room
    left for the parentheses and the negation. -/
theorem ofText_grouped (h₁ : ofText s₁ = .query q₁) (h₂ : ofText s₂ = .query q₂)
    (hroom₁ : nesting s₁ + 1 ≤ maxNesting) (hroom₂ : nesting s₂ + 1 ≤ maxNesting) :
    ofText ("(" ++ s₁ ++ ") AND (" ++ s₂ ++ ")") = .query (q₁.conj q₂) ∧
    ofText ("(" ++ s₁ ++ ") OR (" ++ s₂ ++ ")") = .query (q₁.disj q₂) ∧
    (nesting s₁ + 2 ≤ maxNesting → ofText ("NOT (" ++ s₁ ++ ")") = .query q₁.not) ∧
    ofText ("(" ++ s₁ ++ ")") = .query q₁ :=
  ⟨ofText_joined Query.joins_and (by decide) h₁ h₂ hroom₁ hroom₂,
    ofText_joined Query.joins_or (by decide) h₁ h₂ hroom₁ hroom₂,
    ofText_not_group h₁, ofText_group h₁ hroom₁⟩

/-- A pattern and a text with parentheses, and a chain that goes on with a chain. -/
theorem ofText_grouped_chains :
    let s₁ := "level=error AND NOT matches(message, /a\\), b/s)"
    let s₂ := "(pid>=35 OR host=') OR (')"
    let q₁ : Query := .and [.compare "level" .eq (.string "error"),
      .not (.call .matches "message" (.pattern "a\\), b" "s"))]
    let q₂ : Query := .or [.compare "pid" .ge ⟨"35", .number⟩,
      .compare "host" .eq (.string ") OR (")]
    ofText s₁ = .query q₁ ∧ ofText s₂ = .query q₂ ∧ nesting s₁ = 1 ∧ nesting s₂ = 1 ∧
      ofText ("(" ++ s₁ ++ ") AND (" ++ s₂ ++ ")") =
        .query (.and [.compare "level" .eq (.string "error"),
          .not (.call .matches "message" (.pattern "a\\), b" "s")), q₂]) ∧
      ofText ("(" ++ s₁ ++ ") OR (" ++ s₂ ++ ")") = .query (.or [q₁, q₂]) ∧
      ofText ("NOT (" ++ s₁ ++ ")") = .query q₁.not ∧ ofText ("(" ++ s₁ ++ ")") = .query q₁ := by
  intro s₁ s₂ q₁ q₂
  have h₁ : ofText s₁ = .query q₁ := by decide +kernel
  have h₂ : ofText s₂ = .query q₂ := by decide +kernel
  have hnesting₁ : nesting s₁ = 1 := by decide +kernel
  have hnesting₂ : nesting s₂ = 1 := by decide +kernel
  obtain ⟨hand, hor, hnot, hgroup⟩ := ofText_grouped h₁ h₂ (by rw [hnesting₁]; decide)
    (by rw [hnesting₂]; decide)
  exact ⟨h₁, h₂, hnesting₁, hnesting₂, hand, hor, hnot (by rw [hnesting₁]; decide), hgroup⟩

end Outcome

end Logbook
