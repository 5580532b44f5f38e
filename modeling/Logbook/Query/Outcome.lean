import Logbook.Query.Parser

/-!
# Queries and free text

What a person types is either a query in the query language or free text, and nothing marks which.
It is taken for a query once it shows a clear sign of one: the call of a known function, or an
operator between the name of a field that opens a clause and a value. Free text such as
`server down!` or `retry -> failed` shows none; it is never an error. A query that shows a sign and
cannot be read is an error, even if it could be searched for as free text.

Of a typed text it is told which query it is, whether it is free text and what is wrong with it
(`Outcome`), in one of three forms: `Outcome.freeText`, `Outcome.query` and `Outcome.invalid`. A
check (`Outcome.validate`) tells the errors only.
-/

namespace Logbook

/-- What is told of a typed text. -/
structure Outcome where
  /-- The query that it is, if it can be read as one. -/
  query? : Option Query
  /-- Whether it is free text. -/
  isFreeText : Bool
  /-- What keeps it from being read. -/
  errors : List QueryError
  deriving DecidableEq

/-- What a check of a typed text tells. -/
structure Validation where
  /-- Whether nothing is wrong with it. -/
  valid : Bool
  /-- What is wrong with it. -/
  errors : List QueryError
  deriving DecidableEq

namespace Outcome

/-- Free text. -/
def freeText : Outcome :=
  ⟨none, true, []⟩

/-- A query that cannot be read. -/
def invalid (e : QueryError) : Outcome :=
  ⟨none, false, [e]⟩

/-- A query. -/
def query (q : Query) : Outcome :=
  ⟨some q, false, []⟩

/-- Whether a word begins like the name of a field and has no character that cannot be part of
    one. -/
def isFieldLike (word : String) : Bool :=
  match word.toList with
  | [] => false
  | c :: cs =>
    (c.isAlpha || c = '_' || c = '@' || c = '$') &&
      (c :: cs).all fun c => Query.isFieldChar c || c = '.'

/-- Whether a clause may begin after a token, or at the start. -/
def opensClause : Option Token → Bool
  | none | some .and | some .or | some .not | some .open => true
  | _ => false

/-- Whether an operator is followed by a value, or by nothing if there is such an operator. -/
def hasValue (symbol : String) : List Token → Bool
  | .word _ :: _ | .string _ :: _ => true
  | [] => (CompareOp.ofSymbol? symbol).isSome
  | _ => false

/-- Whether a sign of a query stands at the beginning of some tokens, which follow a given one. -/
def signAt (before : Option Token) : List Token → Bool
  | .word word :: .operator symbol :: rest =>
    opensClause before && isFieldLike word && hasValue symbol rest
  | .word word :: .open :: _ => (TextFunction.ofName? word).isSome
  | _ => false

/-- Whether tokens that follow a given one show a sign of a query. -/
def showsSign (before : Option Token) : List Token → Bool
  | [] => false
  | t :: rest => signAt before (t :: rest) || showsSign (some t) rest

/-- What a typed text is. -/
def ofText (s : String) : Outcome :=
  if Text.isBlankText s.toList then .freeText
  else
    let tokens := Token.ofText s
    if showsSign none (tokens.list.map (·.token)) then
      match tokens.fault with
      | some (what, position) => .invalid ⟨.unterminated what, position⟩
      | none =>
        match Query.ofTokens s.utf8ByteSize tokens.list with
        | .ok q => .query q
        | .error e => .invalid e
    else .freeText

/-- Checks a typed text. -/
def validate (s : String) : Validation :=
  let outcome := ofText s
  ⟨outcome.errors.isEmpty, outcome.errors⟩

end Outcome

end Logbook
