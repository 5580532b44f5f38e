import Logbook.Proofs.Query.Grouping

/-!
# Texts in queries

Any text can be the value of a comparison or the argument of a call. Enclosed in quotes of either
kind (`Text.enclose`) it is one token, whatever it holds: a parenthesis, a connective or a sign of a
query in it is a character like any other. So it cannot change what the query around it says
(`Outcome.ofText_enclosed`).
-/

namespace Logbook

/-- The name of a field is a word, unless it is one of the connectives. -/
theorem IsFieldName.proper {field : String} (h : IsFieldName field)
    (hword : field ≠ "AND" ∧ field ≠ "OR" ∧ field ≠ "NOT") : Token.Proper (.word field) := by
  obtain ⟨hand, hor, hnot⟩ := hword
  refine ⟨?_, fun c hc => ?_, ?_⟩
  · obtain ⟨c, cs, hname, -⟩ := h.exists_cons
    rw [hname]
    exact List.cons_ne_nil c cs
  · rcases h.mem hc with hc | rfl
    · exact Token.isWordChar_of_isFieldChar hc
    · decide
  · rw [Token.ofWord, if_neg hand, if_neg hor, if_neg hnot]

namespace Token

variable {quote : Char} {field : String}

theorem Cuts.enclosed_compare (hquote : quote = '"' ∨ quote = '\'')
    (hfield : Proper (.word field)) (op : CompareOp) (s : String) :
    Cuts false (field.toList ++ (op.symbol.toList ++ Text.enclose quote s.toList))
      [.word field, .operator op.symbol, .string s] := by
  have hvalue : Cuts false (Text.enclose quote s.toList) [.string s] := by
    simpa using Cuts.enclosed hquote s .nil
  have hends : Ends isOperatorChar (Text.enclose quote s.toList) := by
    rcases hquote with rfl | rfl <;> exact .cons (by decide)
  exact Query.cuts_field hfield (Query.ends_symbol op _) (.operator op hends hvalue)

theorem Cuts.enclosed_call (hquote : quote = '"' ∨ quote = '\'')
    (hfield : Proper (.word field)) (function : TextFunction) (s : String) :
    Cuts false (function.name.toList ++ '(' :: (field.toList ++ ',' :: ' ' ::
        (Text.enclose quote s.toList ++ [')'])))
      [.word function.name, .open, .word field, .comma, .string s, .close] :=
  Query.cuts_field function.proper_name (.cons (by decide))
    (.open (Query.cuts_field hfield (.cons (by decide))
      (.comma (.space (.enclosed hquote s (.close .nil))))))

end Token

namespace Outcome

variable {q : Query}

/-- A text that is cut into the tokens of a condition that shows what it is, is this condition. -/
theorem ofText_of_isCondition {s : String} {ts : List Token} (h : IsCondition ts q)
    (hmark : q.IsMarked) (hcuts : Token.Cuts false s.toList ts) : ofText s = .query q :=
  ofText_eq_query_iff_hasMark.2 ⟨h.hasMark_iff.2 hmark, ts, hcuts,
    (Query.Derives.primary (.condition h)).single_and.single_or⟩

/-- Whatever text is enclosed in quotes, a comparison of a field with it is the comparison with this
    text, and a call with it the call with this text. -/
theorem ofText_enclosed {field : String} (hfield : Query.isField field)
    (hfirst : ∃ c ∈ field.toList.head?, c.isAlpha ∨ c = '_' ∨ c = '@' ∨ c = '$')
    (hword : field ≠ "AND" ∧ field ≠ "OR" ∧ field ≠ "NOT") {quote : Char}
    (hquote : quote = '"' ∨ quote = '\'') (s : String) :
    (∀ op : CompareOp,
      ofText (field ++ op.symbol ++ String.ofList (Text.enclose quote s.toList)) =
        .query (.compare field op (.string s))) ∧
    ∀ function : TextFunction, function ≠ .matches →
      ofText (function.name ++ "(" ++ field ++ ", " ++
        String.ofList (Text.enclose quote s.toList) ++ ")") =
          .query (.call function field (.text s)) := by
  have hname : IsFieldName field := Query.isField_iff.1 hfield
  refine ⟨fun op => ?_, fun function hfunction => ?_⟩
  · refine ofText_of_isCondition (.comparison hname op (.string s)) hfirst ?_
    simpa using Token.Cuts.enclosed_compare hquote (hname.proper hword) op s
  · refine ofText_of_isCondition (.call hname (.string hfunction s)) trivial ?_
    simpa using Token.Cuts.enclosed_call hquote (hname.proper hword) function s

/-- A text that would end the literal, and go on with a condition of its own. -/
theorem ofText_enclosed_condition :
    let s := "x' OR level='\\"
    Query.isField "req.url" ∧
      (∃ c ∈ "req.url".toList.head?, c.isAlpha ∨ c = '_' ∨ c = '@' ∨ c = '$') ∧
      ("req.url" ≠ "AND" ∧ "req.url" ≠ "OR" ∧ "req.url" ≠ "NOT") ∧
      ofText "req.url!='x\\' OR level=\\'\\\\'" = .query (.compare "req.url" .ne (.string s)) ∧
      ofText "contains(req.url, 'x\\' OR level=\\'\\\\')" =
        .query (.call .contains "req.url" (.text s)) := by
  intro s
  have hfield : Query.isField "req.url" := by decide
  have hfirst : ∃ c ∈ "req.url".toList.head?, c.isAlpha ∨ c = '_' ∨ c = '@' ∨ c = '$' :=
    ⟨'r', by decide, by decide⟩
  have hword : "req.url" ≠ "AND" ∧ "req.url" ≠ "OR" ∧ "req.url" ≠ "NOT" := by decide
  obtain ⟨hcompare, hcall⟩ := ofText_enclosed hfield hfirst hword (.inr rfl) s
  have htext : "req.url" ++ CompareOp.ne.symbol ++ String.ofList (Text.enclose '\'' s.toList) =
      "req.url!='x\\' OR level=\\'\\\\'" := by decide +kernel
  have htext' : TextFunction.contains.name ++ "(" ++ "req.url" ++ ", " ++
      String.ofList (Text.enclose '\'' s.toList) ++ ")" =
        "contains(req.url, 'x\\' OR level=\\'\\\\')" := by decide +kernel
  exact ⟨hfield, hfirst, hword, htext ▸ hcompare .ne, htext' ▸ hcall .contains (by decide)⟩

end Outcome

end Logbook
