import Logbook.Proofs.Query.Order
import Logbook.Proofs.Search.Order
import Logbook.Proofs.Store.History
import Logbook.Proofs.Store.Responses

/-!
# Answers of a growing store

An entry that is added later is found or not, but changes nothing in what is said of the entries
that there were: they are found as before, in the same order and with the same points
(`Store.Consistent.extendsTo_run`). If a query is answered in the order of the instants, later
entries may come between the former ones, but these do not change places.
-/

namespace Logbook

/-- The second response is the first one with positions from `n` on put in. -/
inductive Response.ExtendsTo (n : Nat) : Response → Response → Prop
  | structured (q : Query) {a b : Answer} (h : b.positions.filter (· < n) = a.positions) :
    ExtendsTo n (.structured q a) (.structured q b)
  | freeText {hits hits' : List Hit} (h : hits'.filter (·.position < n) = hits) :
    ExtendsTo n (.freeText hits) (.freeText hits')
  | invalid (errors : List QueryError) : ExtendsTo n (.invalid errors) (.invalid errors)

namespace Store

variable {s : Store}

theorem Consistent.upToDate (hs : s.Consistent) : s.source.UpToDate := by
  intro x hx
  obtain rfl := Option.some.inj hx
  rw [hs]
  exact .build _ _

theorem Consistent.extendsTo_run (hs : s.Consistent) (more : List Command) (text : String) :
    (s.run text).ExtendsTo s.size ((s.after more).run text) := by
  have hkept : ∀ i < s.entries.size, (s.after more).entries[i]? = s.entries[i]? :=
    fun i hi => get?_after hi
  rcases Outcome.ofText_forms text with h | ⟨q, h⟩ | ⟨e, h⟩
  · rw [run_of_freeText h, run_of_freeText h, settings_after]
    exact .freeText (filter_search hkept)
  · rw [run_of_query h, run_of_query h]
    exact .structured q
      (hs.upToDate.filter_positions_answer (hs.after more).upToDate rfl hkept q)
  · rw [run_of_invalid h, run_of_invalid h]
    exact .invalid [e]

/-- Whatever is done with a store, the response to a text is the one that there was, with positions
    of new entries put in. -/
theorem run_after (settings : Settings) (commands more : List Command) (text : String) :
    let s := (empty settings).after commands
    (s.run text).ExtendsTo s.size ((s.after more).run text) :=
  ((consistent_empty settings).after commands).extendsTo_run more text

/-- A later entry with an earlier instant is put in before the others. -/
example :
    let entry (line : String) : Entry := .text line
    let s := (empty {}).after [.push (entry "2024-05-02 b"), .push (entry "2024-05-01 a")]
    let query := "timestamp > '2024-01-01'"
    (s.run query).positions = [1, 0] ∧
      ((s.after [.push (entry "2024-04-01 c")]).run query).positions = [2, 1, 0] := by
  decide +kernel

end Store

end Logbook
