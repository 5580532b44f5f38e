import Logbook.Proofs.Query.Signs
import Logbook.Store

/-!
# Responses

Of a typed text three things are told: the query that it is, whether it is free text, and what is
wrong with it. Nothing in how they are kept makes them agree, but only three combinations come
about (`Outcome.ofText_forms`). So a store, which looks at the errors first and then at the query,
responds in one of three ways (`Store.run_of_freeText`, `Store.run_of_query`,
`Store.run_of_invalid`).
-/

namespace Logbook

variable {s : Store} {text : String} {q : Query} {e : QueryError}

/-- A text is free text, a query that can be read, or a query that cannot. -/
theorem Outcome.ofText_forms (text : String) : ofText text = .freeText ∨
    (∃ q, ofText text = .query q) ∨ ∃ e, ofText text = .invalid e := by
  rw [ofText_eq]
  split
  next =>
    split
    next => exact .inr (.inr ⟨_, rfl⟩)
    next =>
      split
      next => exact .inr (.inl ⟨_, rfl⟩)
      next => exact .inr (.inr ⟨_, rfl⟩)
  next => exact .inl rfl

namespace Store

theorem run_of_freeText (h : Outcome.ofText text = .freeText) :
    s.run text = .freeText (search s.settings s.entries text) := by
  rw [run, h]
  rfl

theorem run_of_query (h : Outcome.ofText text = .query q) :
    s.run text = .structured q (s.source.answer q) := by
  rw [run, h]
  rfl

theorem run_of_invalid (h : Outcome.ofText text = .invalid e) : s.run text = .invalid [e] := by
  rw [run, h]
  rfl

end Store

end Logbook
