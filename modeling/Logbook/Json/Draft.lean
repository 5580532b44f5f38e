import Logbook.Json.Number

/-!
# JSON texts

A text is read in two steps. `Draft.ofText?` finds its structure; the result is a `Draft`, in which
members stand as they were written, repeated keys included, and in which a leaf may be *void*: a
text with half of a surrogate pair, or a number out of range. `Draft.value?` then makes a value of
a draft. It refuses void leaves and values that nest deeper than `maxNesting`.

The steps are apart because a record may hold members that nobody asks for. They have to be well
formed, but no value is made of them, so that they may be void or nest at any depth.
-/

namespace Logbook

/-- What a JSON text says. -/
inductive Draft where
  /-- The value `null`. -/
  | null
  /-- A truth value. -/
  | bool (b : Bool)
  /-- A number, unless it is out of range. -/
  | number (value : Option Json)
  /-- A text, unless it holds half of a surrogate pair. -/
  | string (s : Option String)
  /-- A list. -/
  | array (items : List Draft)
  /-- Members, as they were written. -/
  | object (members : List (Option String × Draft))

namespace Draft

instance : Inhabited Draft := ⟨.null⟩

/-! ## Texts -/

/-- A part of a written text: a character, or the code of a UTF-16 unit. -/
inductive Piece where
  /-- A character, as it stands or after a backslash. -/
  | char (c : Char)
  /-- A unit, by four digits in base 16. -/
  | unit (code : Nat)

/-- The value of a digit in base 16. -/
def hexDigit? (c : Char) : Option Nat :=
  if c.isDigit then some (c.toNat - '0'.toNat)
  else if 'a' ≤ c ∧ c ≤ 'f' then some (c.toNat - 'a'.toNat + 10)
  else if 'A' ≤ c ∧ c ≤ 'F' then some (c.toNat - 'A'.toNat + 10)
  else none

/-- The value of four digits in base 16. -/
def hexUnit? (a b c d : Char) : Option Nat := do
  return (((← hexDigit? a) * 16 + (← hexDigit? b)) * 16 + (← hexDigit? c)) * 16 + (← hexDigit? d)

/-- The character that a letter after a backslash stands for. -/
def escaped? : Char → Option Char
  | '"' => some '"'
  | '\\' => some '\\'
  | '/' => some '/'
  | 'b' => some '\x08'
  | 'f' => some '\x0c'
  | 'n' => some '\n'
  | 'r' => some '\r'
  | 't' => some '\t'
  | _ => none

/-- The parts of a written text, after its opening quote, and what follows its closing one. -/
def pieces? (done : List Piece) : List Char → Option (List Piece × List Char)
  | [] => none
  | '"' :: cs => some (done.reverse, cs)
  | '\\' :: 'u' :: a :: b :: c :: d :: cs => (hexUnit? a b c d).bind fun n =>
    pieces? (.unit n :: done) cs
  | '\\' :: e :: cs => (escaped? e).bind fun c => pieces? (.char c :: done) cs
  | c :: cs => if c.toNat < 0x20 then none else pieces? (.char c :: done) cs

/-- Whether a unit is the first half of a pair. -/
def isHigh (n : Nat) : Bool :=
  0xD800 ≤ n && n < 0xDC00

/-- Whether a unit is the second half of a pair. -/
def isLow (n : Nat) : Bool :=
  0xDC00 ≤ n && n < 0xE000

/-- The characters that the parts stand for, two units of a pair together. -/
def chars? : List Piece → Option (List Char)
  | [] => some []
  | .char c :: rest => (chars? rest).map (c :: ·)
  | .unit n :: .unit m :: rest =>
    if isHigh n then
      if isLow m then
        (chars? rest).map (Char.ofNat (0x10000 + (n - 0xD800) * 0x400 + (m - 0xDC00)) :: ·)
      else none
    else if isLow n then none
    else (chars? (.unit m :: rest)).map (Char.ofNat n :: ·)
  | .unit n :: rest =>
    if isHigh n || isLow n then none else (chars? rest).map (Char.ofNat n :: ·)

/-- The text between an opening quote, which is read already, and the closing one. -/
def text? (cs : List Char) : Option (Option String × List Char) :=
  (pieces? [] cs).map fun (parts, rest) => ((chars? parts).map String.ofList, rest)

/-! ## Structure -/

/-- Whether a character may stand between the parts of a JSON text. -/
def isSpace (c : Char) : Bool :=
  c = ' ' || c = '\n' || c = '\t' || c = '\r'

/-- The text without the spaces in front. -/
def skip (cs : List Char) : List Char :=
  cs.dropWhile isSpace

/-- Whether a character may be part of a number. -/
def isNumeric (c : Char) : Bool :=
  c.isDigit || c = '-' || c = '+' || c = '.' || c = 'e' || c = 'E'

/-- The number at the start of a text. -/
def number? (cs : List Char) : Option (Draft × List Char) :=
  (Json.Numeral.ofText? (cs.takeWhile isNumeric)).map fun n =>
    (.number n.value?, cs.dropWhile isNumeric)

mutual

/-- The value at the start of a text, and what follows it. The bound is on the number of values
    and members that can still be read. -/
def valueAt? : Nat → List Char → Option (Draft × List Char)
  | 0, _ => none
  | bound + 1, cs =>
    match skip cs with
    | '"' :: cs => (text? cs).map fun (s, rest) => (.string s, rest)
    | '[' :: cs =>
      match skip cs with
      | ']' :: cs => some (.array [], cs)
      | cs => itemsAt? bound [] cs
    | '{' :: cs =>
      match skip cs with
      | '}' :: cs => some (.object [], cs)
      | cs => membersAt? bound [] cs
    | 'n' :: 'u' :: 'l' :: 'l' :: cs => some (.null, cs)
    | 't' :: 'r' :: 'u' :: 'e' :: cs => some (.bool true, cs)
    | 'f' :: 'a' :: 'l' :: 's' :: 'e' :: cs => some (.bool false, cs)
    | cs => number? cs

/-- The items of a list up to its closing bracket, after those read already. -/
def itemsAt? : Nat → List Draft → List Char → Option (Draft × List Char)
  | 0, _, _ => none
  | bound + 1, done, cs =>
    (valueAt? bound cs).bind fun (item, cs) =>
      match skip cs with
      | ',' :: cs => itemsAt? bound (item :: done) cs
      | ']' :: cs => some (.array (item :: done).reverse, cs)
      | _ => none

/-- The members of an object up to its closing brace, after those read already. -/
def membersAt? : Nat → List (Option String × Draft) → List Char → Option (Draft × List Char)
  | 0, _, _ => none
  | bound + 1, done, cs =>
    match skip cs with
    | '"' :: cs => (text? cs).bind fun (key, cs) =>
      match skip cs with
      | ':' :: cs => (valueAt? bound cs).bind fun (value, cs) =>
        match skip cs with
        | ',' :: cs => membersAt? bound ((key, value) :: done) cs
        | '}' :: cs => some (.object ((key, value) :: done).reverse, cs)
        | _ => none
      | _ => none
    | _ => none

end

/-- What a whole text says. Every value and member takes a character of its own. -/
def ofText? (cs : List Char) : Option Draft :=
  (valueAt? (2 * cs.length + 2) cs).bind fun (draft, rest) =>
    if (skip rest).isEmpty then some draft else none

/-! ## Values -/

/-- The number of containers that may stand inside one another. -/
def maxNesting : Nat :=
  127

mutual

/-- The value of a draft inside which `room` containers may still stand inside one another. -/
def valueIn? (room : Nat) : Draft → Option Json
  | .null => some .null
  | .bool b => some (.bool b)
  | .number value => value
  | .string s => s.map .string
  | .array items => if room = 0 then none else (itemsIn? (room - 1) items).map .array
  | .object members => if room = 0 then none else
    (membersIn? (room - 1) members).map fun members => .object (Fields.ofList members)

/-- The values of a list of drafts. -/
def itemsIn? (room : Nat) : List Draft → Option (List Json)
  | [] => some []
  | d :: ds => (valueIn? room d).bind fun v => (itemsIn? room ds).map (v :: ·)

/-- The values of a list of members. -/
def membersIn? (room : Nat) : List (Option String × Draft) → Option (List (String × Json))
  | [] => some []
  | (key, d) :: ds => key.bind fun key => (valueIn? room d).bind fun v =>
    (membersIn? room ds).map ((key, v) :: ·)

end

/-- The members of a draft, unless a key is void. -/
def keyed? (members : List (Option String × Draft)) : Option (List (String × Draft)) :=
  members.mapM fun (key, d) => key.map (·, d)

/-- The value of a draft. -/
def value? (d : Draft) : Option Json :=
  valueIn? maxNesting d

end Draft

/-- The value that a JSON text stands for. -/
def Json.ofText? (cs : List Char) : Option Json :=
  (Draft.ofText? cs).bind Draft.value?

end Logbook
