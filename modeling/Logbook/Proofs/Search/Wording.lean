import Logbook.Proofs.Query.Spacing
import Logbook.Proofs.Search.Quotes
import Logbook.Proofs.Text.Lowering

/-!
# Words in another order

What is found for terms, and with how many points, does not hang on the order in which they are
asked for (`SearchTerms.Same`): all of them have to match, and their points are put together.

Words with blanks between them are written in small letters one by one, and give their terms one by
one (`SearchTerms.runs_lower_spread`). Each stem is kept at its first place only, so the terms hang
on which words there are, and not on their order, on how often they stand there or on the blanks
between them (`SearchTerms.same_of_spread`); and neither do the hits (`search_same_words`).
-/

namespace Logbook

variable {s : Settings} {t t' : SearchTerms} {text word : List Char} {e : Entry}

namespace SearchTerms

/-! ## The same terms -/

/-- Two queries ask for the same terms, in any order. -/
structure Same (t t' : SearchTerms) : Prop where
  tokens : t.tokens.Perm t'.tokens
  phrases : t.phrases.Perm t'.phrases
  unknown : t.unknown = t'.unknown

namespace Same

theorem hasTerms_eq (h : t.Same t') : t.hasTerms = t'.hasTerms := by
  rw [hasTerms, hasTerms, h.tokens.isEmpty_eq, h.phrases.isEmpty_eq]

theorem matchesTerms_eq (h : t.Same t') : matchesTerms s text t = matchesTerms s text t' := by
  rw [matchesTerms, matchesTerms, h.phrases.all_eq, h.tokens.all_eq]

theorem relevance_eq (h : t.Same t') : relevance s text t = relevance s text t' := by
  rw [relevance_eq_sum, relevance_eq_sum, (h.phrases.map _).sum_eq, (h.tokens.map _).sum_eq]

theorem points?_eq (h : t.Same t') : points? s t e = points? s t' e := by
  rw [points?, points?, isEmpty, isEmpty, score?, score?]
  rw [h.hasTerms_eq, h.matchesTerms_eq, h.relevance_eq, h.unknown]

theorem search_eq {entries : Array Entry} {query query' : String}
    (h : (ofText query).Same (ofText query')) :
    search s entries query = search s entries query' := by
  have hpoints : points? s (ofText query) = points? s (ofText query') :=
    funext fun _ => h.points?_eq
  rw [Logbook.search_eq, Logbook.search_eq, found, found, hpoints]

end Same

/-! ## Words with blanks between them -/

/-- A text that can stand as a word: it has characters, and no separator among them. -/
structure IsWord (word : List Char) : Prop where
  ne_nil : word ≠ []
  not_isSeparator : ∀ c ∈ word, ¬isSeparator c

theorem runs_lower_word (h : IsWord word) :
    Text.runs isSeparator (Text.lower word) = [Text.lower word] :=
  Text.runs_of_forall_not (Text.lower_ne_nil h.ne_nil) fun c hc hsep =>
    h.not_isSeparator c (Text.mem_of_mem_lower hsep hc) hsep

/-- A blank and what follows it in small letters has the words of what follows. -/
theorem runs_lower_blank {c : Char} (hc : Text.isBlank c) (front back : List Char) :
    Text.runs isSeparator (Text.lower (front ++ c :: back)) =
      Text.runs isSeparator (Text.lower front) ++ Text.runs isSeparator (Text.lower back) := by
  rw [Text.lower_append_cons (Text.isBarrier (.inl hc)),
    Text.runs_append_cons (Text.isSeparator_of_isBlank hc)]

theorem runs_lower_blanks {gap : List Char} (hgap : ∀ c ∈ gap, Text.isBlank c)
    (cs : List Char) :
    Text.runs isSeparator (Text.lower (gap ++ cs)) = Text.runs isSeparator (Text.lower cs) := by
  induction gap with
  | nil => rfl
  | cons c gap ih =>
    obtain ⟨hc, hgap⟩ := List.forall_mem_cons.1 hgap
    exact (runs_lower_blank hc [] (gap ++ cs)).trans (ih hgap)

theorem runs_lower_spread {ws : List (List Char)} {cs : List Char} (h : Token.Spread ws cs)
    (hws : ∀ word ∈ ws, IsWord word) :
    Text.runs isSeparator (Text.lower cs) = ws.map Text.lower := by
  induction h with
  | nil => rfl
  | @cons word gap cs ws hgap hapart h ih =>
    obtain ⟨hword, hws⟩ := List.forall_mem_cons.1 hws
    have ih := ih hws
    rw [List.map_cons, ← ih, List.append_assoc]
    cases gap with
    | nil =>
      -- Nothing keeps the word apart, so it is the last one.
      have hlast : ws = [] := by_contra fun hne => hapart hne rfl
      subst hlast
      cases h
      rw [List.nil_append, List.append_nil, runs_lower_word hword]
      rfl
    | cons c gap =>
      obtain ⟨hc, hgap⟩ := List.forall_mem_cons.1 hgap
      rw [List.cons_append, runs_lower_blank hc, runs_lower_word hword, runs_lower_blanks hgap]
      rfl

theorem not_mem_of_spread {ws : List (List Char)} {cs : List Char} (h : Token.Spread ws cs)
    {c : Char} (hblank : ¬Text.isBlank c) (hws : ∀ word ∈ ws, c ∉ word) : c ∉ cs := by
  induction h with
  | nil => exact List.not_mem_nil
  | cons hgap _ _ ih =>
    obtain ⟨hword, hws⟩ := List.forall_mem_cons.1 hws
    rw [List.mem_append, List.mem_append]
    rintro ((hc | hc) | hc)
    · exact hword hc
    · exact hblank (hgap c hc)
    · exact ih hws hc

variable {ws ws' : List (List Char)} {query query' : String}

/-- Words with blanks between them have no quotes, and so they are one piece. -/
theorem pieces_of_spread (h : Token.Spread ws query.toList) (hws : ∀ word ∈ ws, IsWord word) :
    pieces query = [Text.lower query.toList] := by
  have hquote : '"' ∉ query.toList := not_mem_of_spread h (by decide) fun word hword hmem =>
    (hws word hword).not_isSeparator '"' hmem (by decide)
  exact List.splitOn_eq_singleton (mt (Text.mem_of_mem_lower (by decide)) hquote)

theorem words_of_spread (h : Token.Spread ws query.toList) (hws : ∀ word ∈ ws, IsWord word) :
    words query = ws.map Text.lower := by
  rw [words, pieces_of_spread h hws, ← runs_lower_spread h hws]
  exact List.append_nil _

theorem phrases_of_spread (h : Token.Spread ws query.toList) (hws : ∀ word ∈ ws, IsWord word) :
    (ofText query).phrases = [] := by
  rw [phrases_ofText, pieces_of_spread h hws]
  rfl

theorem same_of_spread (hws : ∀ word ∈ ws, IsWord word) (hsame : ∀ word, word ∈ ws ↔ word ∈ ws')
    (h : Token.Spread ws query.toList) (h' : Token.Spread ws' query'.toList) :
    (ofText query).Same (ofText query') := by
  -- The stems stand once each, so it is enough that they have the same members.
  have hws' : ∀ word ∈ ws', IsWord word := fun word hword => hws word ((hsame word).2 hword)
  have hwords : ∀ word, word ∈ words query ↔ word ∈ words query' := fun word => by
    rw [words_of_spread h hws, words_of_spread h' hws', List.mem_map, List.mem_map]
    simp only [hsame]
  refine ⟨?_, ?_, ?_⟩
  · rw [List.perm_ext_iff_of_nodup (nodup_tokens query) (nodup_tokens query')]
    intro token
    simp only [mem_tokens_iff, hwords]
  · rw [phrases_of_spread h hws, phrases_of_spread h' hws']
  · rw [Bool.eq_iff_iff, unknown_iff, unknown_iff, hwords]

end SearchTerms

/-- Queries of the same words, in any order, each any number of times and with any blanks between
    them, find the same hits with the same points and in the same order. -/
theorem search_same_words (s : Settings) (entries : Array Entry) {ws ws' : List (List Char)}
    {query query' : String} (hws : ∀ word ∈ ws, word ≠ [] ∧ ∀ c ∈ word, ¬isSeparator c)
    (hsame : ∀ word, word ∈ ws ↔ word ∈ ws') (h : Token.Spread ws query.toList)
    (h' : Token.Spread ws' query'.toList) :
    search s entries query = search s entries query' :=
  (SearchTerms.same_of_spread (fun word hword => ⟨(hws word hword).1, (hws word hword).2⟩) hsame h
    h').search_eq

/-- Three words in another order, one of them twice, with other blanks between them. -/
theorem search_same_words_twice :
    let entries : Array Entry := #[.text "INFO disk full", .text "WARN env=prod disks are full"]
    let ws := ["Disks".toList, "UNKNOWN".toList, "full".toList]
    let ws' := ["full".toList, "Disks".toList, "full".toList, "UNKNOWN".toList]
    let query := "Disks UNKNOWN\tfull"
    let query' := "full  Disks full\u3000UNKNOWN"
    (∀ word ∈ ws, word ≠ [] ∧ ∀ c ∈ word, ¬isSeparator c) ∧ (∀ word, word ∈ ws ↔ word ∈ ws') ∧
      Token.Spread ws query.toList ∧ Token.Spread ws' query'.toList ∧
      ⟨0, 90⟩ ∈ search {} entries query ∧ ⟨0, 90⟩ ∈ search {} entries query' := by
  intro entries ws ws' query query'
  have hws : ∀ word ∈ ws, word ≠ [] ∧ ∀ c ∈ word, ¬isSeparator c := by
    have hall : ws.all fun word => !word.isEmpty && word.all (!isSeparator ·) := by decide
    simpa using hall
  have hsame : ∀ word, word ∈ ws ↔ word ∈ ws' := fun word => by
    simp only [ws, ws', List.mem_cons, List.not_mem_nil, or_false]
    tauto
  have hblank : ∀ gap : List Char, gap.all Text.isBlank → ∀ c ∈ gap, Text.isBlank c :=
    fun _ => List.all_eq_true.1
  have h : Token.Spread ws query.toList := by
    have hparts : query.toList = "Disks".toList ++ [' '] ++ ("UNKNOWN".toList ++ ['\t'] ++
      ("full".toList ++ [] ++ [])) := by decide +kernel
    rw [hparts]
    refine .cons (hblank _ ?_) ?_ (.cons (hblank _ ?_) ?_ (.cons (hblank _ ?_) ?_ .nil))
    all_goals decide
  have h' : Token.Spread ws' query'.toList := by
    have hparts : query'.toList = "full".toList ++ [' ', ' '] ++ ("Disks".toList ++ [' '] ++
      ("full".toList ++ ['\u3000'] ++ ("UNKNOWN".toList ++ [] ++ []))) := by decide +kernel
    rw [hparts]
    refine .cons (hblank _ ?_) ?_ (.cons (hblank _ ?_) ?_ (.cons (hblank _ ?_) ?_
      (.cons (hblank _ ?_) ?_ .nil)))
    all_goals decide
  have hhit : ⟨0, 90⟩ ∈ search {} entries query := mem_search.2 ⟨_, rfl, by decide +kernel⟩
  have hequal : search {} entries query = search {} entries query' :=
    search_same_words {} entries hws hsame h h'
  exact ⟨hws, hsame, h, h', hhit, hequal ▸ hhit⟩

end Logbook
