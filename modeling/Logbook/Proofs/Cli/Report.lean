import Logbook.Cli.Session
import Logbook.Proofs.Number.Digits
import Logbook.Proofs.Store.Growth

/-!
# Reports account for what is found

A report counts the positions of a response and shows the entries at the first of them, but a
position without an entry would be passed over without a word. That no position is
(`Store.entriesAt_of_lt`) lies in the response: whatever was done with a store, what it finds is
within its entries (`Store.Consistent.lt_of_mem_run`).

So the numbers of a report add up (`Report.Accounts`): the heading tells how many positions were
found, the rows are the first of them in order, up to the limit, and a last line tells how many are
left, if any are. No other line could be taken for it, since it begins with a point
(`Report.more_mem_lines_iff`).
-/

namespace Logbook

namespace Store

variable {s : Store} {positions : List Nat}

/-! ## Positions with entries -/

/-- Positions with entries are resolved one by one, and none is passed over. -/
theorem entriesAt_of_lt (h : ∀ i ∈ positions, i < s.size) :
    (s.entriesAt positions).map some = positions.map s.get? := by
  induction positions with
  | nil => rfl
  | cons i positions ih =>
    obtain ⟨hi, hpositions⟩ := List.forall_mem_cons.1 h
    have hget : s.get? i = some s.entries[i] := Array.getElem?_eq_getElem hi
    rw [entriesAt, List.filterMap_cons_some hget, List.map_cons, List.map_cons, hget]
    exact congrArg _ (ih hpositions)

/-- What is found is within the entries, whether from an index, by a scan or as free text. -/
theorem Consistent.lt_of_mem_run (hs : s.Consistent) {text : String} {i : Nat}
    (hi : i ∈ (s.run text).positions) : i < s.size := by
  rcases Outcome.ofText_forms text with h | ⟨q, h⟩ | ⟨e, h⟩
  · rw [run_of_freeText h] at hi
    obtain ⟨hit, hhit, rfl⟩ := List.mem_map.1 hi
    obtain ⟨e, he, -⟩ := mem_search.1 hhit
    exact (Array.getElem?_eq_some_iff.1 he).1
  · rw [run_of_query h] at hi
    obtain ⟨e, he, -⟩ := (hs.upToDate.mem_answer q).1 hi
    exact (Array.getElem?_eq_some_iff.1 he).1
  · rw [run_of_invalid h] at hi
    exact absurd hi List.not_mem_nil

end Store

namespace Cli.Report

variable {s : Store} {limit : Nat} {took text : String}

/-- That a report tells of all that a store found. -/
structure Accounts (r : Report) (s : Store) (found : List Nat) (limit : Nat) (took : String) :
    Prop where
  /-- Every position has its entry. -/
  resolved : (s.entriesAt found).map some = found.map s.get?
  /-- The heading ends with the number of the positions. -/
  counted : ∃ front ∈ ["Found ", "Free-text search: found "], ∃ back,
    r.heading.getLast? = some (front ++ toString found.length ++ " results in " ++ took ++ back)
  /-- There is a row for each position, up to the limit. -/
  length_rows : r.rows.length = min limit found.length
  /-- The rows are those of the entries, in the order of their positions and numbered from 1. -/
  row : ∀ k < limit, ∀ i, found[k]? = some i →
    ∃ e, s.get? i = some e ∧ r.rows[k]? = some (toString (k + 1) ++ ": " ++ e.row)
  /-- Behind the rows there is a line at the most. -/
  lines : r.lines = ["Query: " ++ r.query] ++ r.heading ++ r.rows ++
    if limit < found.length then ["... " ++ toString (found.length - limit) ++ " more"] else []
  /-- A line tells how many positions have no row, if there are any. -/
  more : ∀ k, "... " ++ toString k ++ " more" ∈ r.lines ↔ 0 < k ∧ found.length = limit + k

/-! ## Rows -/

theorem length_rows_ofQuery (h : ∀ i ∈ (s.run text).positions, i < s.size) :
    (ofQuery s limit took text).rows.length = min limit (s.run text).positions.length := by
  have hlength := congrArg List.length (Store.entriesAt_of_lt h)
  rw [List.length_map, List.length_map] at hlength
  rw [rows, List.length_map, List.length_zipIdx, ofQuery, List.length_take, hlength]

theorem getElem?_rows_ofQuery (h : ∀ i ∈ (s.run text).positions, i < s.size) {k : Nat}
    (hk : k < limit) {i : Nat} (hi : (s.run text).positions[k]? = some i) :
    ∃ e, s.get? i = some e ∧
      (ofQuery s limit took text).rows[k]? = some (toString (k + 1) ++ ": " ++ e.row) := by
  -- Since no position is passed over, the entry of a position has its place.
  have hget := congrArg (·[k]?) (Store.entriesAt_of_lt h)
  simp only [List.getElem?_map, hi, Option.map_some, Option.map_eq_some_iff] at hget
  obtain ⟨e, he, hentry⟩ := hget
  refine ⟨e, hentry.symm, ?_⟩
  rw [rows, ofQuery, List.getElem?_map, List.getElem?_zipIdx, List.getElem?_take_of_lt hk, he,
    Nat.add_comm]
  rfl

/-! ## The last line -/

theorem toString_inj {m n : Nat} (h : toString m = toString n) : m = n := by
  rw [Nat.toString_eq_ofList_toDigits, Nat.toString_eq_ofList_toDigits, String.ofList_inj] at h
  rw [← digitsValue_toDigits m, h, digitsValue_toDigits]

theorem head?_heading {response : Response} {line : String} (h : line ∈ response.heading took) :
    line.toList.head? ≠ some '.' := by
  cases response with
  | structured q a =>
    rcases List.mem_pair.1 h with rfl | rfl <;> simp [String.toList_append]
  | freeText hits =>
    rw [List.mem_singleton.1 h]
    simp [String.toList_append]
  | invalid errors =>
    obtain ⟨e, -, rfl⟩ := List.mem_map.1 h
    simp [QueryError.line, String.toList_append]

theorem head?_row {r : Report} {line : String} (h : line ∈ r.rows) :
    line.toList.head? ≠ some '.' := by
  obtain ⟨⟨e, i⟩, -, rfl⟩ := List.mem_map.1 h
  obtain ⟨d, ds, hdigits⟩ := List.exists_cons_of_ne_nil (@Nat.toDigits_ne_nil i 10)
  have hd : d.isDigit := isDigit_of_mem_toDigits (hdigits ▸ List.mem_cons_self)
  simp only [String.toList_append, Nat.toString_eq_ofList_toDigits, String.toList_ofList, hdigits,
    List.cons_append, List.head?_cons, ne_eq, Option.some.injEq]
  rintro rfl
  exact absurd hd (by decide)

/-- No line but the last one begins with a point. -/
theorem more_mem_lines_iff {r : Report} (hheading : ∀ line ∈ r.heading, line.toList.head? ≠ some '.')
    (k : Nat) : "... " ++ toString k ++ " more" ∈ r.lines ↔ 0 < k ∧ r.more = k := by
  have hpoint : ("... " ++ toString k ++ " more").toList.head? = some '.' := by
    simp [String.toList_append]
  rw [lines, List.mem_append, or_iff_right]
  -- The line is either the last one, or one of those before it, which begin otherwise.
  · split
    next hmore =>
      rw [List.mem_singleton, String.append_left_inj, String.append_right_inj]
      constructor
      · intro h
        obtain rfl := toString_inj h
        exact ⟨hmore, rfl⟩
      · rintro ⟨-, rfl⟩
        rfl
    next hmore =>
      simp only [List.not_mem_nil, false_iff]
      omega
  · simp only [List.mem_append, List.mem_singleton]
    rintro ((h | h) | h)
    · rw [h] at hpoint
      simp [String.toList_append] at hpoint
    · exact hheading _ h hpoint
    · exact head?_row h hpoint

/-- The heading of a response ends with the number of its positions. -/
theorem counted_heading {response : Response} (h : ∀ errors, response ≠ .invalid errors) :
    ∃ front ∈ ["Found ", "Free-text search: found "], ∃ back, (response.heading took).getLast? =
      some (front ++ toString response.positions.length ++ " results in " ++ took ++ back) := by
  cases response with
  | structured q a =>
    refine ⟨"Found ", by decide,
      " (indexes used: " ++ (if a.usedIndex then "true" else "false") ++ ")", ?_⟩
    simp only [Response.heading, Response.positions, List.getLast?_cons_cons,
      List.getLast?_singleton, String.append_assoc]
  | freeText hits =>
    refine ⟨"Free-text search: found ", by decide, "", ?_⟩
    simp only [Response.heading, Response.positions, List.length_map, List.getLast?_singleton,
      String.append_empty]
  | invalid errors => exact absurd rfl (h errors)

/-- A report on what is within the entries tells of all of it. -/
theorem accounts_of_lt (hfound : ∀ i ∈ (s.run text).positions, i < s.size)
    (hvalid : ∀ errors, s.run text ≠ .invalid errors) :
    (ofQuery s limit took text).Accounts s (s.run text).positions limit took where
  resolved := Store.entriesAt_of_lt hfound
  counted := counted_heading hvalid
  length_rows := length_rows_ofQuery hfound
  row k hk i hi := getElem?_rows_ofQuery hfound hk hi
  lines := by
    -- The difference of the numbers is cut off at 0, where the limit is not reached.
    have hmore : 0 < (s.run text).positions.length - limit ↔
        limit < (s.run text).positions.length := by omega
    simp only [lines, ofQuery, hmore]
  more k := by
    rw [more_mem_lines_iff fun _ => head?_heading]
    change 0 < k ∧ _ - limit = k ↔ _
    omega

/-- Whatever was done with a store that was empty at first: the report on a text that can be read
    tells of all that the store finds of it, whatever the limit is. -/
theorem ofQuery_accounts (settings : Settings) (commands : List Store.Command) (limit : Nat)
    (took text : String) :
    let s := (Store.empty settings).after commands
    (∀ errors, s.run text ≠ .invalid errors) →
      (ofQuery s limit took text).Accounts s (s.run text).positions limit took := by
  intro s hvalid
  have hs : s.Consistent := (Store.consistent_empty settings).after commands
  exact accounts_of_lt (fun _ => hs.lt_of_mem_run) hvalid

/-- Two of three lines that are read hold the text, and one row is shown. -/
theorem ofQuery_accounts_two :
    let bytes : Bytes := [0x61, 0x0A, 0x62, 0x0A, 0x61, 0x62]
    let s := (Store.empty {}).after [.ingest ⟨bytes, none⟩, .rebuild]
    let text := "contains(message, 'b')"
    let r := ofQuery s 1 "1ms" text
    (∀ errors, s.run text ≠ .invalid errors) ∧ (s.run text).positions = [1, 2] ∧
      (s.entriesAt [1, 2]).map some = [s.get? 1, s.get? 2] ∧ r.rows.length = 1 ∧
      (∃ e, s.get? 1 = some e ∧ r.rows[0]? = some ("1: " ++ e.row)) ∧ "... 1 more" ∈ r.lines := by
  intro bytes s text r
  have hfound : (s.run text).positions = [1, 2] := by decide +kernel
  have hvalid : ∀ errors, s.run text ≠ .invalid errors := by
    intro errors h
    rw [h] at hfound
    cases hfound
  have haccounts := ofQuery_accounts {} [.ingest ⟨bytes, none⟩, .rebuild] 1 "1ms" text hvalid
  rw [hfound] at haccounts
  exact ⟨hvalid, hfound, haccounts.resolved, haccounts.length_rows,
    haccounts.row 0 Nat.one_pos 1 rfl, (haccounts.more 1).2 ⟨Nat.one_pos, rfl⟩⟩

end Cli.Report

/-! ## Sessions -/

namespace Cli

variable {find : String → Finding} {s t : Store}

theorem consistent_of_addBytes (hs : s.Consistent) {bytes : Bytes}
    (h : addBytes s bytes = .ok t) : t.Consistent := by
  unfold addBytes Store.ingest at h
  cases hread : readEntries bytes with
  | error fault =>
    rw [hread] at h
    cases h
  | ok es =>
    rw [hread] at h
    cases h
    exact hs.pushBatch es

theorem consistent_of_addFinding (hs : s.Consistent) {name : String} {found : Finding}
    (h : addFinding s name found = .ok t) : t.Consistent := by
  cases found with
  | missing => cases h
  | directory => cases h
  | file bytes => exact consistent_of_addBytes hs h

theorem consistent_of_addFiles {names loading : List String} (hs : s.Consistent)
    (h : addFiles find s names = (loading, .ok t)) : t.Consistent := by
  induction names generalizing s loading with
  | nil =>
    cases h
    exact hs
  | cons name names ih =>
    unfold addFiles at h
    split at h
    next => cases h
    next hfound =>
      obtain ⟨-, hrest⟩ := Prod.mk.inj h
      exact ih (consistent_of_addFinding hs hfound) (Prod.ext rfl hrest)

theorem consistent_of_load {input : Bytes} {o : Options} {settings : Settings}
    {loading : List String} (h : load find input o settings = (loading, .ok t)) :
    t.Consistent := by
  have hs := Store.consistent_empty settings
  unfold load at h
  split at h
  · exact consistent_of_addBytes hs (Prod.mk.inj h).2
  · exact consistent_of_addFiles hs h

/-- Once a session has loaded what it was given, each query that can be read is replied to by a
    report that tells of all that is found, be it typed or one of the options. -/
theorem reports_of_load {input : Bytes} {o : Options} {settings : Settings} {loading : List String}
    (hload : load find input o settings = (loading, .ok s)) {text : String}
    (hvalid : ∀ errors, s.run text ≠ .invalid errors) (took : String) :
    ∃ r : Report, r.Accounts s (s.run text).positions o.rowLimit took ∧
      (Command.query text).reply s o.rowLimit took = r.lines ++ [""] ∧
      (o.query = some text → ∀ typed, answers s o took typed = r.lines) := by
  have hs : s.Consistent := consistent_of_load hload
  refine ⟨.ofQuery s o.rowLimit took text,
    Report.accounts_of_lt (fun _ => hs.lt_of_mem_run) hvalid, rfl, fun hquery typed => ?_⟩
  rw [answers, hquery]

end Cli

end Logbook
