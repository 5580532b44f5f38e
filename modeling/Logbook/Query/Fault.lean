import Logbook.Pattern.Compile
import Logbook.Query.Basic
import Logbook.Query.Token

/-!
# Faults of queries

Why a query cannot be read, and where: a `QueryError` is a cause at a place, counted in bytes from
the start of the query.
-/

namespace Logbook

/-- The number of parentheses and negations that may nest. -/
def Query.maxNesting : Nat :=
  64

/-- Why a query cannot be read. -/
inductive QueryFault where
  /-- A literal has no end. -/
  | unterminated (what : Unterminated)
  /-- The query ends where a condition should begin. -/
  | unexpectedEnd
  /-- A token stands where it cannot. -/
  | unexpected (t : Token)
  /-- Parentheses and negations nest too deep. -/
  | tooDeep
  /-- A parenthesis, opened at a place, is not closed. -/
  | unclosed (position : Nat)
  /-- A word is followed by neither an operator nor a parenthesis. -/
  | loneWord (s : String)
  /-- A name is not that of a field. -/
  | badField (name : String)
  /-- There is no such operator. -/
  | unknownOperator (s : String)
  /-- An operator is not followed by a value. -/
  | missingValue (operator : String)
  /-- There is no such function. -/
  | unknownFunction (name : String)
  /-- A function's first argument is not a name. -/
  | missingField (function : String)
  /-- No comma stands between the arguments. -/
  | missingComma
  /-- A pattern is given to a function that takes a text. -/
  | strayPattern (function : String)
  /-- No pattern is given to the function that takes one. -/
  | missingPattern
  /-- A function's second argument is missing. -/
  | missingArgument (function : String)
  /-- A pattern cannot be used. -/
  | badPattern (fault : Pattern.Fault)
  /-- A function is not closed. -/
  | unclosedCall (function : String)
  deriving DecidableEq

/-- A fault at its place. -/
structure QueryError where
  /-- The fault. -/
  fault : QueryFault
  /-- The number of bytes in front of the place. -/
  position : Nat
  deriving DecidableEq

/-- A token as a message names it. -/
def Token.described : Token → String
  | .word s => "'" ++ s ++ "'"
  | .string s => "string \"" ++ s ++ "\""
  | .pattern source flags => "regex /" ++ source ++ "/" ++ flags
  | .operator s => "operator '" ++ s ++ "'"
  | .and => "'AND'"
  | .or => "'OR'"
  | .not => "'NOT'"
  | .open => "'('"
  | .close => "')'"
  | .comma => "','"

/-- What is told of a fault. -/
def QueryFault.message : QueryFault → String
  | .unterminated .string => "Unterminated string literal"
  | .unterminated .pattern => "Unterminated regex literal"
  | .unexpectedEnd => "Unexpected end of query"
  | .unexpected t => "Unexpected " ++ t.described
  | .tooDeep => "Query nests deeper than " ++ toString Query.maxNesting ++ " levels"
  | .unclosed position => "Missing ')' for '(' at position " ++ toString position
  | .loneWord s => "Expected an operator or '(' after '" ++ s ++ "'"
  | .badField name => "Invalid field name '" ++ name ++ "'"
  | .unknownOperator s => "Unknown operator '" ++ s ++ "'"
  | .missingValue operator => "Expected a value after '" ++ operator ++ "'"
  | .unknownFunction name => "Unknown function '" ++ name ++ "'"
  | .missingField function =>
    "Expected a field name as the first argument of " ++ function ++ "()"
  | .missingComma => "Expected ',' after the field name"
  | .strayPattern function =>
    "Regex literals are only valid in matches(), not " ++ function ++ "()"
  | .missingPattern => "Expected a /pattern/flags regex as the second argument of matches()"
  | .missingArgument function =>
    "Expected a value as the second argument of " ++ function ++ "()"
  | .badPattern fault => "Invalid regular expression: " ++ fault.message
  | .unclosedCall function => "Expected ')' to close " ++ function ++ "("

/-- What is told of the place of an error. -/
def QueryError.place (e : QueryError) : String :=
  " (at position " ++ toString e.position ++ ")"

/-- What is told of an error: its message and its place. -/
def QueryError.shown (e : QueryError) : String :=
  e.fault.message ++ e.place

end Logbook
