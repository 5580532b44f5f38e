import Logbook.Cli.Report
import Logbook.Proofs.Query.Enclosing
import Logbook.Proofs.Store.Growth
import Logbook.Proofs.Time.Written

/-!
# Asking for a shown instant

The instant of an entry is shown in the internet form, and a query may ask for it as it is shown.
There is nothing in it that would have to be protected (`Instant.not_mem_text?`), so that the text
stands in the query as the literal (`Outcome.ofText_instant`). It is read as the instant again, and
an instant is compared exactly, for all that are read are within the exact integers of double
precision (`Store.Consistent.mem_answer_date`).
-/

namespace Logbook

/-- A text in which nothing has to be protected is asked for as it is. -/
theorem Outcome.ofText_instant {shown : String} (hbackslash : '\\' ∉ shown.toList)
    (hquote : '"' ∉ shown.toList) : ofText ("timestamp=\"" ++ shown ++ "\"") =
      .query (.compare "timestamp" .eq (.string shown)) := by
  have hname : IsFieldName "timestamp" := Query.isField_iff.1 (by decide)
  have hcuts := Token.Cuts.enclosed_compare (.inl rfl) (hname.proper (by decide)) .eq shown
  rw [Text.enclose, Text.protect_of_not_mem hbackslash hquote] at hcuts
  refine ofText_of_isCondition (.comparison hname .eq (.string shown))
    (⟨'t', by decide, by decide⟩) ?_
  simpa [CompareOp.symbol] using hcuts

theorem Instant.not_mem_text? {t : Int} {cs : List Char} (h : text? t = some cs) {c : Char}
    (hdigit : ¬c.isDigit) (hsign : c ∉ signs) : c ∉ cs :=
  fun hc => (mem_text? h hc).elim hdigit hsign

namespace Store

variable {s : Store}

/-- A date finds the entries of its instant. -/
theorem Consistent.mem_answer_date (hs : s.Consistent) {date : String} {t : Int}
    (h : Instant.ofText? date = some t) (i : Nat) :
    i ∈ (s.source.answer (.compare "timestamp" .eq (.string date))).positions ↔
      ∃ e, s.get? i = some e ∧ e.timestamp? = some t := by
  have hv : (Literal.string date).coerce "timestamp" = .number (.ofInt t) := by
    simp only [Literal.coerce, Literal.string, h]
  rw [hs.upToDate.mem_answer]
  refine exists_congr fun e => and_congr_right fun _ => ?_
  rw [Source.holds_timestamp_iff hv (Instant.natAbs_lt_of_ofText? h)]
  simp [CompareOp.holds]

/-- An instant of a year of four digits is read from the text as which it is shown. Whatever was
    done with a store that was empty at first: asking for the text that is shown of an entry of this
    instant finds the entries of the instant, and no others. -/
theorem run_shown_instant {t : Int}
    (hyear : 0 ≤ (Instant.reading t).date.year ∧ (Instant.reading t).date.year ≤ 9999) :
    (∃ cs, Instant.text? t = some cs ∧ Instant.ofText? (String.ofList cs) = some t) ∧
      ∀ (settings : Settings) (commands : List Command) (i : Nat) (e : Entry),
        let s := (empty settings).after commands
        s.get? i = some e → e.timestamp? = some t →
          ∃ a, s.run ("timestamp=\"" ++ e.timeText ++ "\"") =
              .structured (.compare "timestamp" .eq (.string e.timeText)) a ∧
            i ∈ a.positions ∧
            ∀ j, j ∈ a.positions ↔ ∃ f, s.get? j = some f ∧ f.timestamp? = some t := by
  obtain ⟨cs, htext, hread⟩ := Instant.exists_text? hyear
  refine ⟨⟨cs, htext, hread⟩, fun settings commands i e => ?_⟩
  intro s he ht
  have hs : s.Consistent := (consistent_empty settings).after commands
  have hshown : e.timeText = String.ofList cs := by
    rw [Entry.timeText, ht, Option.bind_some, htext, Option.getD_some]
  have hbackslash : '\\' ∉ e.timeText.toList := by
    rw [hshown, String.toList_ofList]
    exact Instant.not_mem_text? htext (by decide) (by decide)
  have hquote : '"' ∉ e.timeText.toList := by
    rw [hshown, String.toList_ofList]
    exact Instant.not_mem_text? htext (by decide) (by decide)
  have hmem := hs.mem_answer_date (hshown ▸ hread)
  exact ⟨_, run_of_query (Outcome.ofText_instant hbackslash hquote), (hmem i).2 ⟨e, he, ht⟩, hmem⟩

/-- The last millisecond before 1970, and the first one of 1970. -/
theorem run_shown_instant_before_1970 :
    let a : Entry := .pino ⟨-1, 30, "", none, none, none, none, none, none, []⟩
    let b : Entry := .pino ⟨0, 30, "", none, none, none, none, none, none, []⟩
    let s := (empty {}).after [.pushBatch [a, b]]
    let shown := "1969-12-31T23:59:59.999Z"
    (0 ≤ (Instant.reading (-1)).date.year ∧ (Instant.reading (-1)).date.year ≤ 9999) ∧
      Instant.ofText? shown = some (-1) ∧ s.get? 0 = some a ∧ a.timestamp? = some (-1) ∧
      a.timeText = shown ∧
      ∃ answer, s.run "timestamp=\"1969-12-31T23:59:59.999Z\"" =
          .structured (.compare "timestamp" .eq (.string shown)) answer ∧
        0 ∈ answer.positions ∧ 1 ∉ answer.positions := by
  intro a b s shown
  have hyear : 0 ≤ (Instant.reading (-1)).date.year ∧ (Instant.reading (-1)).date.year ≤ 9999 := by
    decide
  have hget : s.get? 0 = some a := rfl
  have htime : a.timestamp? = some (-1) := rfl
  have hshown : a.timeText = shown := by decide +kernel
  obtain ⟨⟨cs, htext, hread⟩, hrun⟩ := run_shown_instant hyear
  have hcs : String.ofList cs = shown := by
    rw [← hshown, Entry.timeText, htime, Option.bind_some, htext, Option.getD_some]
  obtain ⟨answer, hanswer, hfound, hothers⟩ := hrun {} [.pushBatch [a, b]] 0 a hget htime
  rw [hshown] at hanswer
  refine ⟨hyear, hcs ▸ hread, hget, htime, hshown, answer, hanswer, hfound, fun hone => ?_⟩
  obtain ⟨f, hf, hft⟩ := (hothers 1).1 hone
  obtain rfl : b = f := Option.some.inj hf
  exact absurd hft (by decide)

end Store

end Logbook
