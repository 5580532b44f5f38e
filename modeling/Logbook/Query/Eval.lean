import Logbook.Field.Compare
import Logbook.Field.Lookup
import Logbook.Index.Basic
import Logbook.Query.Parser
import Std.Data.HashSet

/-!
# Answering queries

A query is answered by the positions of the entries on which it holds. Every condition can be
answered by a scan of all entries; with an index at hand, some are answered from it:

* a level or an environment equal to a name;
* an instant compared with a date, except for inequality;
* a text in the message, where the index narrows down the entries to look at.

An index is used only if it counts as many entries as there are. The answers of conditions are put
together as lists of positions: a conjunction keeps the order of its first term, a disjunction and
a negation give ascending lists. A condition on a field that an entry lacks does not hold, not even
inequality.
-/

namespace Logbook

/-- The answer to a query. -/
structure Answer where
  /-- The positions of the entries on which the query holds. -/
  positions : List Nat
  /-- Whether an index was asked. -/
  usedIndex : Bool
  deriving DecidableEq, Inhabited

/-- What a query is answered from. -/
structure Source where
  /-- The entries. -/
  entries : Array Entry
  /-- An index of them. -/
  index : Option Index

namespace Source

/-- The positions of the entries that pass a test. -/
def scan (s : Source) (test : Entry → Bool) : List Nat :=
  (List.range s.entries.size).filter fun i => s.entries[i]?.any test

/-! ## Conditions -/

/-- Whether an entry's field compares so with a value. -/
def comparisonHolds (field : String) (op : CompareOp) (expected : FieldValue) (e : Entry) : Bool :=
  (e.field? field).any fun actual => actual.compares op expected

/-- The bounds of the instants that compare so with a given one, both included. They are signed
    integers of 64 bits like the instants. -/
def bounds? (op : CompareOp) (t : Int) : Option (Option Int × Option Int) :=
  match op with
  | .eq => some (some t, some t)
  | .gt => some (some (clamp64 (t + 1)), none)
  | .ge => some (some t, none)
  | .lt => some (none, some (clamp64 (t - 1)))
  | .le => some (none, some t)
  | .ne => none

/-- The answer of an index to a comparison, if it can answer. -/
def indexed? (x : Index) (field : String) (op : CompareOp) (type : LiteralType)
    (expected : FieldValue) : Option (List Nat) :=
  match field, op, expected with
  | "level", .eq, .text level => some (x.ofLevel level)
  | "environment", .eq, .text environment => some (x.ofEnvironment environment)
  | "env", .eq, .text environment => some (x.ofEnvironment environment)
  | "timestamp", op, .number d =>
    if type = .string then
      (bounds? op d.toInt64).map fun (first, last) => x.inRange first last
    else none
  | _, _, _ => none

/-- The answer to a comparison. -/
def comparison (s : Source) (field : String) (op : CompareOp) (v : Literal) : Answer :=
  let expected := v.coerce field
  match s.index.bind fun x => indexed? x field op v.type expected with
  | some positions => ⟨positions, true⟩
  | none => ⟨s.scan (comparisonHolds field op expected), false⟩

/-- Whether a function holds of two texts in small letters. -/
def textTest (function : TextFunction) (needle hay : List Char) : Bool :=
  match function with
  | .contains => Text.hasInfix needle hay
  | .startsWith => needle.isPrefixOf hay
  | .endsWith => needle.isSuffixOf hay
  | .matches => false

/-- Whether a function holds of an entry's field and a text in small letters. -/
def textHolds (function : TextFunction) (field : String) (needle : List Char) (e : Entry) : Bool :=
  (e.field? field).any fun value => textTest function needle (Text.lower value.shown)

/-- Whether a pattern matches in an entry's field. -/
def patternHolds (prog : Pattern.Program) (field : String) (e : Entry) : Bool :=
  (e.field? field).any fun value => prog.isMatch value.shown

/-- The answer to the match of a pattern. A pattern that cannot be used matches nothing. -/
def matching (s : Source) (field source flags : String) : Answer :=
  match Pattern.compile source flags with
  | .ok prog => ⟨s.scan (patternHolds prog field), false⟩
  | .error _ => ⟨[], false⟩

/-- The positions at which an index lets a text be found in a field. -/
def narrowed? (s : Source) (function : TextFunction) (field : String) (needle : List Char) :
    Option (List Nat) :=
  if function = .contains ∧ field = "message" then s.index.bind (·.candidates? needle) else none

/-- The answer to a call. A pattern given to a function of texts makes it hold of nothing. -/
def call (s : Source) (function : TextFunction) (field : String) (argument : Argument) : Answer :=
  match function, argument with
  | .matches, .pattern source flags => s.matching field source flags
  | .matches, .text source => s.matching field source ""
  | _, .pattern _ _ => ⟨[], false⟩
  | function, .text text =>
    let needle := Text.lower text.toList
    match s.narrowed? function field needle with
    | some positions =>
      ⟨positions.filter fun i => s.entries[i]?.any (textHolds function field needle), true⟩
    | none => ⟨s.scan (textHolds function field needle), false⟩

/-! ## Connectives -/

/-- The positions of the first list that are in the second. -/
def meet (a b : List Nat) : List Nat :=
  let members := Std.HashSet.ofList b
  a.filter members.contains

/-- The positions that are not in a list. -/
def others (s : Source) (a : List Nat) : List Nat :=
  let members := Std.HashSet.ofList a
  (List.range s.entries.size).filter fun i => !members.contains i

mutual

/-- The answer to a query, from an index that is up to date. -/
def answerFresh (s : Source) : Query → Answer
  | .and terms => answerAll s none terms
  | .or terms =>
    let a := answerEach s terms
    ⟨Index.ascending a.positions, a.usedIndex⟩
  | .not q =>
    let a := answerFresh s q
    ⟨s.others a.positions, a.usedIndex⟩
  | .compare field op value => s.comparison field op value
  | .call function field argument => s.call function field argument

/-- The positions on which all of the terms hold, and the ones before, which hold on those given.
    Once there are none, the other terms are not asked. -/
def answerAll (s : Source) (before : Option (List Nat)) : List Query → Answer
  | [] => ⟨before.getD (List.range s.entries.size), false⟩
  | q :: qs =>
    let a := answerFresh s q
    let positions := match before with
      | none => a.positions
      | some before => meet before a.positions
    if positions.isEmpty then ⟨[], a.usedIndex⟩
    else
      let rest := answerAll s (some positions) qs
      ⟨rest.positions, a.usedIndex || rest.usedIndex⟩

/-- The positions on which the terms hold, one term after the other. -/
def answerEach (s : Source) : List Query → Answer
  | [] => ⟨[], false⟩
  | q :: qs =>
    let a := answerFresh s q
    let rest := answerEach s qs
    ⟨a.positions ++ rest.positions, a.usedIndex || rest.usedIndex⟩

end

/-- The source without an index that is out of date. -/
def fresh (s : Source) : Source :=
  { s with index := s.index.filter fun x => x.total = s.entries.size }

/-- The answer to a query. -/
def answer (s : Source) (q : Query) : Answer :=
  s.fresh.answerFresh q

end Source

end Logbook
