import Logbook.Text.Blank

/-!
# The tokens of a query

A query is cut into tokens from left to right; blanks only keep tokens apart. Cutting is generous:
any text is a run of tokens, unless a quoted text or a pattern has no end. A `/` opens a pattern only
where an argument may stand, after a comma, so that a path such as `/api/login` is a word.

`Token.ofText` gives the tokens with the byte offsets of their first characters, up to the end or up
to the literal that has none.
-/

namespace Logbook

/-- A token of a query. -/
inductive Token where
  /-- A run of characters without a meaning of their own. -/
  | word (s : String)
  /-- A quoted text, without its quotes and escapes. -/
  | string (s : String)
  /-- A pattern between slashes, and the letters after it. -/
  | pattern (source flags : String)
  /-- A run of the characters of which operators are made. -/
  | operator (s : String)
  /-- The word `AND`. -/
  | and
  /-- The word `OR`. -/
  | or
  /-- The word `NOT`. -/
  | not
  /-- An opening parenthesis. -/
  | open
  /-- A closing parenthesis. -/
  | close
  /-- A comma. -/
  | comma
  deriving DecidableEq, Inhabited

/-- A token at its place. -/
structure PlacedToken where
  /-- The number of bytes in front of the token. -/
  position : Nat
  /-- The token. -/
  token : Token
  deriving DecidableEq, Inhabited

/-- What has no end. -/
inductive Unterminated where
  /-- A quoted text. -/
  | string
  /-- A pattern. -/
  | pattern
  deriving DecidableEq

/-- What became of a text: its tokens, and the literal without an end at which they stop. -/
structure Tokens where
  /-- The tokens, from left to right. -/
  list : List PlacedToken
  /-- The literal without an end, and its place. -/
  fault : Option (Unterminated × Nat)
  deriving DecidableEq

namespace Token

/-- Whether a character is one of those that operators are made of. -/
def isOperatorChar (c : Char) : Bool :=
  c = '=' || c = '!' || c = '<' || c = '>'

/-- Whether a character may be part of a word. -/
def isWordChar (c : Char) : Bool :=
  !Text.isBlank c && !isOperatorChar c && c ≠ '(' && c ≠ ')' && c ≠ ',' && c ≠ '"' && c ≠ '\''

/-- The token that a word is. -/
def ofWord (s : String) : Token :=
  if s = "AND" then .and
  else if s = "OR" then .or
  else if s = "NOT" then .not
  else .word s

/-- The text up to the closing quote, and the number of characters that it takes with the quote. A
    backslash stands for the character after it. -/
def quoted? (quote : Char) : List Char → Option (List Char × Nat)
  | [] => none
  | '\\' :: [] => none
  | '\\' :: c :: cs => (quoted? quote cs).map fun (s, n) => (c :: s, n + 2)
  | c :: cs =>
    if c = quote then some ([], 1) else (quoted? quote cs).map fun (s, n) => (c :: s, n + 1)

/-- The pattern up to the closing slash, and the number of characters that it takes with the slash.
    A backslash only takes its meaning from a slash; before any other character it belongs to the
    pattern. -/
def slashed? : List Char → Option (List Char × Nat)
  | [] => none
  | '\\' :: [] => none
  | '\\' :: c :: cs => (slashed? cs).map fun (s, n) =>
    (if c = '/' then c :: s else '\\' :: c :: s, n + 2)
  | c :: cs => if c = '/' then some ([], 1) else (slashed? cs).map fun (s, n) => (c :: s, n + 1)

/-- The token that begins with the character `c` and goes on in `cs`, and the number of further
    characters that it takes. -/
def scan (afterComma : Bool) (c : Char) (cs : List Char) : Except Unterminated (Token × Nat) :=
  if c = '(' then .ok (.open, 0)
  else if c = ')' then .ok (.close, 0)
  else if c = ',' then .ok (.comma, 0)
  else if c = '"' ∨ c = '\'' then
    match quoted? c cs with
    | some (s, n) => .ok (.string (String.ofList s), n)
    | none => .error .string
  else if c = '/' ∧ afterComma then
    match slashed? cs with
    | some (s, n) =>
      let flags := (cs.drop n).takeWhile Char.isAlpha
      .ok (.pattern (String.ofList s) (String.ofList flags), n + flags.length)
    | none => .error .pattern
  else if isOperatorChar c then
    let more := cs.takeWhile isOperatorChar
    .ok (.operator (String.ofList (c :: more)), more.length)
  else
    let more := cs.takeWhile isWordChar
    .ok (ofWord (String.ofList (c :: more)), more.length)

/-- The tokens of a text that stands at a place, after a comma or not. -/
def scanFrom (position : Nat) (afterComma : Bool) : List Char → Tokens
  | [] => ⟨[], none⟩
  | c :: cs =>
    if Text.isBlank c then scanFrom (position + c.utf8Size) afterComma cs
    else match scan afterComma c cs with
      | .error fault => ⟨[], some (fault, position)⟩
      | .ok (token, n) =>
        let next := position + c.utf8Size + Text.byteLength (cs.take n)
        let rest := scanFrom next (token = .comma) (cs.drop n)
        ⟨⟨position, token⟩ :: rest.list, rest.fault⟩
termination_by cs => cs.length
decreasing_by all_goals simp only [List.length_cons, List.length_drop]; omega

/-- The tokens of a query. -/
def ofText (s : String) : Tokens :=
  scanFrom 0 false s.toList

end Token

end Logbook
