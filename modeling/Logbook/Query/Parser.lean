import Logbook.Query.Fault

/-!
# Reading queries

The grammar of queries, from the weakest connective to the strongest, over tokens:

```text
Or         := And (OR And)*
And        := Not (AND Not)*
Not        := NOT Not | Primary
Primary    := ( Or ) | Comparison | Call
Comparison := Field operator (string | word)
Call       := Function ( Field , Argument )
```

Every parser here takes the tokens in front of it and the number of bytes of the whole query, which
is the place of its end, and gives a query and the tokens that follow. Parentheses and negations may
nest to a bounded depth; `Query.unit room` reads what stands under at most `room` more of them, so
that the recursion is on `room`. A chain of any length is read from left to right (`Query.chain`).
-/

namespace Logbook

/-- What a parser makes of the tokens in front of it. -/
abbrev Parse := Except QueryError (Query × List PlacedToken)

/-- What parsers make of tokens can be compared. -/
instance decidableEqExcept {ε α : Type} [DecidableEq ε] [DecidableEq α] :
    DecidableEq (Except ε α)
  | .ok a, .ok b => decidable_of_iff (a = b) (by simp)
  | .error e, .error f => decidable_of_iff (e = f) (by simp)
  | .ok _, .error _ | .error _, .ok _ => isFalse (by simp)

/-- The place of the first token, or of the end if there is none. -/
def placeOf (ending : Nat) : List PlacedToken → Nat
  | t :: _ => t.position
  | [] => ending

/-- A fault at a place. -/
def fail {α : Type} (fault : QueryFault) (position : Nat) : Except QueryError α :=
  .error ⟨fault, position⟩

namespace Query

/-! ## Fields -/

/-- Whether a character may be part of a step of a field's name. -/
def isFieldChar (c : Char) : Bool :=
  c.isAlphanum || c = '_' || c = '-' || c = '@' || c = '$'

/-- Whether a text is the name of a field: steps with points between them, none of them empty. -/
def isField (name : String) : Bool :=
  (name.toList.splitOn '.').all fun step => !step.isEmpty && step.all isFieldChar

/-- The name of a field at a place. -/
def fieldAt (name : String) (position : Nat) : Except QueryError String :=
  if isField name then .ok name else fail (.badField name) position

/-! ## Conditions -/

/-- A comparison of the field in `word`, which an operator follows. -/
def comparison (ending : Nat) (word : String) (position : Nat) (operator : PlacedToken)
    (symbol : String) (tokens : List PlacedToken) : Parse := do
  let field ← fieldAt word position
  match CompareOp.ofSymbol? symbol with
  | none => fail (.unknownOperator symbol) operator.position
  | some op =>
    match tokens with
    | ⟨_, .string s⟩ :: rest => .ok (.compare field op (.string s), rest)
    | ⟨_, .word s⟩ :: rest => .ok (.compare field op (.bare s), rest)
    | _ => fail (.missingValue symbol) (placeOf ending tokens)

/-- The second argument of a function, which may be a pattern only where one is asked for, and a
    pattern that can be used. -/
def argument (ending : Nat) (function : TextFunction) (tokens : List PlacedToken) :
    Except QueryError (Argument × List PlacedToken) :=
  let position := placeOf ending tokens
  let pattern (source flags : String) (rest : List PlacedToken) :=
    match Pattern.compile source flags with
    | .ok _ => .ok (.pattern source flags, rest)
    | .error fault => fail (.badPattern fault) position
  match function, tokens with
  | .matches, ⟨_, .pattern source flags⟩ :: rest => pattern source flags rest
  | .matches, ⟨_, .string s⟩ :: rest => pattern s "" rest
  | _, ⟨_, .pattern _ _⟩ :: _ => fail (.strayPattern function.name) position
  | .matches, _ => fail .missingPattern position
  | _, ⟨_, .string s⟩ :: rest => .ok (.text s, rest)
  | _, ⟨_, .word s⟩ :: rest => .ok (.text s, rest)
  | _, _ => fail (.missingArgument function.name) position

/-- A call of the function `name`, after its opening parenthesis. -/
def functionCall (ending : Nat) (name : String) (position : Nat) (tokens : List PlacedToken) : Parse :=
  match TextFunction.ofName? name with
  | none => fail (.unknownFunction name) position
  | some function =>
    match tokens with
    | ⟨place, .word word⟩ :: rest => do
      let field ← fieldAt word place
      match rest with
      | ⟨_, .comma⟩ :: rest => do
        let (arg, rest) ← argument ending function rest
        match rest with
        | ⟨_, .close⟩ :: rest => .ok (.call function field arg, rest)
        | _ => fail (.unclosedCall name) (placeOf ending rest)
      | _ => fail .missingComma (placeOf ending rest)
    | _ => fail (.missingField name) (placeOf ending tokens.tail)

/-- A comparison or a call. -/
def condition (ending : Nat) : List PlacedToken → Parse
  | [] => fail .unexpectedEnd ending
  | ⟨position, .word word⟩ :: rest =>
    match rest with
    | ⟨_, .open⟩ :: rest => functionCall ending word position rest
    | ⟨place, .operator symbol⟩ :: rest =>
      comparison ending word position ⟨place, .operator symbol⟩ symbol rest
    | _ => fail (.loneWord word) (placeOf ending rest)
  | t :: _ => fail (.unexpected t.token) t.position

/-! ## Connectives -/

/-- The further links of a chain after its left part, at most so many. -/
def links (item : List PlacedToken → Parse) (connective : Token) (join : Query → Query → Query) :
    Nat → Query → List PlacedToken → Parse
  | bound + 1, left, t :: tokens =>
    if t.token = connective then do
      let (right, rest) ← item tokens
      links item connective join bound (join left right) rest
    else .ok (left, t :: tokens)
  | _, left, tokens => .ok (left, tokens)

/-- Items with a connective between them. Every link begins with a token of its own. -/
def chain (item : List PlacedToken → Parse) (connective : Token) (join : Query → Query → Query)
    (tokens : List PlacedToken) : Parse := do
  let (left, rest) ← item tokens
  links item connective join rest.length left rest

/-- Negations, conjunctions and disjunctions of what an item reads. -/
def formula (item : List PlacedToken → Parse) (tokens : List PlacedToken) : Parse :=
  chain (chain item .and conj) .or disj tokens

/-- A negation, a group or a condition, where `room` more negations and groups may nest. -/
def unit (ending : Nat) : Nat → List PlacedToken → Parse
  | 0, ⟨position, .not⟩ :: _ => fail .tooDeep position
  | 0, ⟨position, .open⟩ :: _ => fail .tooDeep position
  | room + 1, ⟨_, .not⟩ :: rest => do
    let (q, rest) ← unit ending room rest
    return (.not q, rest)
  | room + 1, ⟨position, .open⟩ :: rest => do
    let (q, rest) ← formula (unit ending room) rest
    match rest with
    | ⟨_, .close⟩ :: rest => return (q, rest)
    | _ => fail (.unclosed position) (placeOf ending rest)
  | _, tokens => condition ending tokens

/-- The query that a whole list of tokens writes. -/
def ofTokens (ending : Nat) (tokens : List PlacedToken) : Except QueryError Query := do
  let (q, rest) ← formula (unit ending maxNesting) tokens
  match rest with
  | [] => return q
  | t :: _ => fail (.unexpected t.token) t.position

end Query

end Logbook
