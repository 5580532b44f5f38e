import Logbook.Number.Decimal
import Logbook.Text.Quoted

/-!
# Queries

A query is a tree of conditions on an entry, under conjunction, disjunction and negation. A chain of
the same connective is one node with a list of terms; `Query.conj` and `Query.disj` extend the chain
on their left.

`Query.shown` writes a query in the language in which queries are read. Chains stand in parentheses,
so that what was grouped stays so.
-/

namespace Logbook

/-- The ways in which two values can be compared. -/
inductive CompareOp where
  /-- Equal. -/
  | eq
  /-- Not equal. -/
  | ne
  /-- Greater. -/
  | gt
  /-- Less. -/
  | lt
  /-- Greater or equal. -/
  | ge
  /-- Less or equal. -/
  | le
  deriving DecidableEq, Inhabited

namespace CompareOp

/-- All operators. -/
def all : List CompareOp :=
  [.eq, .ne, .gt, .lt, .ge, .le]

/-- An operator as it is written. -/
def symbol : CompareOp → String
  | .eq => "="
  | .ne => "!="
  | .gt => ">"
  | .lt => "<"
  | .ge => ">="
  | .le => "<="

/-- The operator that a text writes. -/
def ofSymbol? (s : String) : Option CompareOp :=
  all.find? (·.symbol = s)

end CompareOp

/-- The functions that test a field. -/
inductive TextFunction where
  /-- The text stands somewhere in the field. -/
  | contains
  /-- The field starts with the text. -/
  | startsWith
  /-- The field ends with the text. -/
  | endsWith
  /-- A pattern matches somewhere in the field. -/
  | matches
  deriving DecidableEq, Inhabited

namespace TextFunction

/-- All functions. -/
def all : List TextFunction :=
  [.contains, .startsWith, .endsWith, .matches]

/-- The name of a function. -/
def name : TextFunction → String
  | .contains => "contains"
  | .startsWith => "startsWith"
  | .endsWith => "endsWith"
  | .matches => "matches"

/-- The function of a name. -/
def ofName? (s : String) : Option TextFunction :=
  all.find? (·.name = s)

end TextFunction

/-- What a literal is taken for. -/
inductive LiteralType where
  /-- A text. -/
  | string
  /-- A number. -/
  | number
  /-- A truth value. -/
  | boolean
  deriving DecidableEq, Inhabited

/-- A value in a query, as it is written. -/
structure Literal where
  /-- The text of the value. -/
  value : String
  /-- What it is taken for. -/
  type : LiteralType
  deriving DecidableEq, Inhabited

namespace Literal

/-- The literal of a quoted text. -/
def string (s : String) : Literal :=
  ⟨s, .string⟩

/-- The literal of a word: a truth value, a finite number, or else a text. -/
def bare (s : String) : Literal :=
  if s = "true" ∨ s = "false" then ⟨s, .boolean⟩
  else if (Double.ofText? s.toList).any Double.isFinite then ⟨s, .number⟩
  else ⟨s, .string⟩

end Literal

/-- The argument of a function. -/
inductive Argument where
  /-- A text. -/
  | text (s : String)
  /-- A pattern and its flags. -/
  | pattern (source flags : String)
  deriving DecidableEq, Inhabited

/-- A condition on an entry. -/
inductive Query where
  /-- All of the terms hold. -/
  | and (terms : List Query)
  /-- Some of the terms holds. -/
  | or (terms : List Query)
  /-- The query does not hold. -/
  | not (q : Query)
  /-- The field compares so with the value. -/
  | compare (field : String) (op : CompareOp) (value : Literal)
  /-- The function holds of the field. -/
  | call (function : TextFunction) (field : String) (argument : Argument)

namespace Query

instance : Inhabited Query := ⟨.and []⟩

mutual

/-- Whether two queries are the same. -/
def same : Query → Query → Bool
  | .and ps, .and qs => sameTerms ps qs
  | .or ps, .or qs => sameTerms ps qs
  | .not p, .not q => same p q
  | .compare field op v, .compare field' op' v' => field = field' && op = op' && v = v'
  | .call function field a, .call function' field' a' =>
    function = function' && field = field' && a = a'
  | _, _ => false

/-- Whether the terms of two chains are the same. -/
def sameTerms : List Query → List Query → Bool
  | [], [] => true
  | p :: ps, q :: qs => same p q && sameTerms ps qs
  | _, _ => false

end

mutual

theorem same_iff : {p q : Query} → same p q ↔ p = q
  | .and _, q => by cases q <;> simp [same, sameTerms_iff]
  | .or _, q => by cases q <;> simp [same, sameTerms_iff]
  | .not _, q => by cases q <;> simp [same, same_iff]
  | .compare .., q => by cases q <;> simp [same, and_assoc]
  | .call .., q => by cases q <;> simp [same, and_assoc]

theorem sameTerms_iff : {ps qs : List Query} → sameTerms ps qs ↔ ps = qs
  | [], qs => by cases qs <;> simp [sameTerms]
  | _ :: _, qs => by cases qs <;> simp [sameTerms, same_iff, sameTerms_iff]

end

instance : DecidableEq Query := fun _ _ => decidable_of_iff _ same_iff

/-- Both queries hold. -/
def conj : Query → Query → Query
  | .and terms, q => .and (terms ++ [q])
  | p, q => .and [p, q]

/-- One of the queries holds. -/
def disj : Query → Query → Query
  | .or terms, q => .or (terms ++ [q])
  | p, q => .or [p, q]

/-! ## Writing -/

/-- A quoted text. -/
def quotedText (s : String) : List Char :=
  Text.quote s.toList

/-- A literal: a text in quotes, anything else as it was written. -/
def literalText (v : Literal) : List Char :=
  match v.type with
  | .string => quotedText v.value
  | _ => v.value.toList

/-- An argument: a text in quotes, a pattern between slashes. -/
def argumentText : Argument → List Char
  | .text s => quotedText s
  | .pattern source flags => '/' :: source.toList ++ '/' :: flags.toList

mutual

/-- A query as it is written. -/
def shown : Query → List Char
  | .and terms => '(' :: chainShown " AND ".toList terms ++ [')']
  | .or terms => '(' :: chainShown " OR ".toList terms ++ [')']
  | .not q => "NOT ".toList ++ shown q
  | .compare field op value => field.toList ++ op.symbol.toList ++ literalText value
  | .call function field argument =>
    function.name.toList ++ '(' :: field.toList ++ ", ".toList ++ argumentText argument ++ [')']

/-- The terms of a chain with a separator between them. -/
def chainShown (separator : List Char) : List Query → List Char
  | [] => []
  | [q] => shown q
  | q :: qs => shown q ++ separator ++ chainShown separator qs

end

end Query

end Logbook
