import Logbook.Proofs.Text.Finding
import Logbook.Query.Parser

/-!
# The grammar of queries

Which tokens write which query is said here without regard to how they are read (`Query.Derives`):

```text
Or(d)      := And(d) (OR And(d))*
And(d)     := Not(d) (AND Not(d))*
Not(d)     := NOT Not(d + 1) | Primary(d)
Primary(d) := ( Or(d + 1) ) | Condition
```

The negations and groups around a phrase are counted by `d`, and where there are as many as may
nest, no other one may begin. The links of a chain are joined from left to right.
-/

namespace Logbook

/-! ## Words -/

/-- Steps with points between them, none of them empty. -/
def IsFieldName (name : String) : Prop :=
  ∃ steps : List (List Char), steps ≠ [] ∧
    (∀ step ∈ steps, step ≠ [] ∧ ∀ c ∈ step, Query.isFieldChar c) ∧
    name.toList = ['.'].intercalate steps

theorem Query.isField_iff {name : String} : Query.isField name ↔ IsFieldName name := by
  rw [Query.isField, List.all_eq_true]
  simp only [Bool.and_eq_true, Bool.not_eq_true', List.isEmpty_eq_false_iff, List.all_eq_true]
  constructor
  · intro h
    exact ⟨_, List.splitOn_ne_nil '.' name.toList, h, (List.intercalate_splitOn '.').symm⟩
  · rintro ⟨steps, hne, hsteps, hname⟩
    have hpoint : ∀ step ∈ steps, '.' ∉ step := fun step hs hc =>
      absurd ((hsteps step hs).2 '.' hc) (by decide)
    rwa [hname, List.splitOn_intercalate '.' hpoint hne]

theorem CompareOp.ofSymbol?_eq_some_iff {s : String} {op : CompareOp} :
    ofSymbol? s = some op ↔ s = op.symbol := by
  constructor
  · intro h
    have hsymbol : op.symbol = s := by simpa using List.find?_some h
    exact hsymbol.symm
  · rintro rfl
    cases op <;> decide

theorem TextFunction.ofName?_eq_some_iff {s : String} {function : TextFunction} :
    ofName? s = some function ↔ s = function.name := by
  constructor
  · intro h
    have hname : function.name = s := by simpa using List.find?_some h
    exact hname.symm
  · rintro rfl
    cases function <;> decide

/-! ## Conditions -/

/-- The tokens that write a value. -/
inductive IsValue : Token → Literal → Prop
  | string (s : String) : IsValue (.string s) (.string s)
  | word (s : String) : IsValue (.word s) (.bare s)

/-- The tokens that write an argument of a function: of patterns only such as can be used. -/
inductive IsArgument : TextFunction → Token → Argument → Prop
  | pattern {source flags : String} {prog : Pattern.Program}
      (h : Pattern.compile source flags = .ok prog) :
      IsArgument .matches (.pattern source flags) (.pattern source flags)
  | quoted {source : String} {prog : Pattern.Program} (h : Pattern.compile source "" = .ok prog) :
      IsArgument .matches (.string source) (.pattern source "")
  | string {function : TextFunction} (h : function ≠ .matches) (s : String) :
      IsArgument function (.string s) (.text s)
  | word {function : TextFunction} (h : function ≠ .matches) (s : String) :
      IsArgument function (.word s) (.text s)

/-- The tokens that write a condition. -/
inductive IsCondition : List Token → Query → Prop
  | comparison {field : String} {t : Token} {v : Literal} (hf : IsFieldName field) (op : CompareOp)
      (hv : IsValue t v) :
      IsCondition [.word field, .operator op.symbol, t] (.compare field op v)
  | call {field : String} {function : TextFunction} {t : Token} {a : Argument}
      (hf : IsFieldName field) (ha : IsArgument function t a) :
      IsCondition [.word function.name, .open, .word field, .comma, t, .close]
        (.call function field a)

namespace Query

/-! ## Connectives -/

/-- The phrases of the grammar. -/
inductive Phrase where
  /-- A chain of alternatives. -/
  | or
  /-- A chain of what has to hold together. -/
  | and
  /-- What may be negated. -/
  | not
  /-- A group or a condition. -/
  | primary

/-- The links of a chain as they are written, each after its connective. -/
def linked (connective : Token) (links : List (List Token × Query)) : List Token :=
  links.flatMap fun link => connective :: link.1

theorem linked_cons (connective : Token) (link : List Token × Query)
    (links : List (List Token × Query)) :
    linked connective (link :: links) = connective :: (link.1 ++ linked connective links) :=
  rfl

/-- The query of a chain. -/
def joined (join : Query → Query → Query) (first : Query) (links : List (List Token × Query)) :
    Query :=
  links.foldl (fun q link => join q link.2) first

/-- The tokens that write a query as a phrase with `d` negations and groups around it. -/
inductive Derives : Phrase → Nat → List Token → Query → Prop
  | or {d : Nat} {w : List Token} {q : Query} {links : List (List Token × Query)}
      (first : Derives .and d w q) (rest : ∀ link ∈ links, Derives .and d link.1 link.2) :
      Derives .or d (w ++ linked .or links) (joined disj q links)
  | and {d : Nat} {w : List Token} {q : Query} {links : List (List Token × Query)}
      (first : Derives .not d w q) (rest : ∀ link ∈ links, Derives .not d link.1 link.2) :
      Derives .and d (w ++ linked .and links) (joined conj q links)
  | not {d : Nat} {w : List Token} {q : Query} (room : d < maxNesting)
      (inner : Derives .not (d + 1) w q) : Derives .not d (.not :: w) (.not q)
  | primary {d : Nat} {w : List Token} {q : Query} (h : Derives .primary d w q) :
      Derives .not d w q
  | group {d : Nat} {w : List Token} {q : Query} (room : d < maxNesting)
      (inner : Derives .or (d + 1) w q) : Derives .primary d (.open :: w ++ [.close]) q
  | condition {d : Nat} {w : List Token} {q : Query} (h : IsCondition w q) :
      Derives .primary d w q

end Query

end Logbook
