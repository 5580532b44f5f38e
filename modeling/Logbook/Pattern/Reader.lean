import Logbook.Pattern.Plain

/-!
# Reading patterns

Patterns are written in the usual notation of regular expressions: `.`, `[...]`, `*`, `+`, `?`,
counts in braces, groups, `|`, anchors, escapes, and sets named in `\p` and between colons. They
are put together in plain form as they are read.

A `Mode` says how what follows is read. It is changed by the flags of a group, up to the end of the
group or the group around the flags:

* `i` ignores the case of letters, `m` lets `^` and `$` match at lines, `s` lets `.` match a newline
  as well, `R` ends lines at carriage returns too, `U` lets repetitions prefer fewer times, and `x`
  passes over blanks and comments;
* `u`, if it is taken away, leaves only ASCII characters to the named sets; then no set may hold
  anything else, since the pieces of other characters cannot be told apart from bytes of no text.

Reading keeps track of how deep the parts of a pattern nest and refuses more than `maxNesting`.
-/

namespace Logbook.Pattern

/-- How a pattern is read. -/
structure Mode where
  /-- The case of letters does not matter. -/
  insensitive : Bool := false
  /-- Anchors match at lines. -/
  multiLine : Bool := false
  /-- A point matches a newline. -/
  dotAll : Bool := false
  /-- Characters outside ASCII are known. -/
  unicode : Bool := true
  /-- Lines end at carriage returns. -/
  crlf : Bool := false
  /-- Repetitions prefer fewer times, unless a question mark follows. -/
  lazy : Bool := false
  /-- Blanks and comments are passed over. -/
  extended : Bool := false

/-- A place in a pattern that is being read. -/
structure Cursor where
  /-- What is still to be read. -/
  rest : List Char
  /-- How it is read. -/
  mode : Mode
  /-- The names of groups so far. -/
  names : List (List Char) := []
  /-- The number of groups so far that tell their matches apart. -/
  groups : Nat := 0

/-- A step of reading, which may refuse. -/
abbrev Reading := StateT Cursor Option

/-- The number of parts that may nest. -/
def maxNesting : Nat :=
  250

namespace Reading

/-! ## Steps -/

/-- Refuses. -/
def refuse {α : Type} : Reading α :=
  fun _ => none

/-- Goes on only if the condition holds. -/
def require (p : Bool) : Reading Unit :=
  if p then pure () else refuse

/-- The mode. -/
def mode : Reading Mode := do
  return (← get).mode

/-- The next character, if there is one. -/
def peek? : Reading (Option Char) := do
  return (← get).rest.head?

/-- The next character. -/
def peek : Reading Char := do
  match (← get).rest with
  | c :: _ => return c
  | [] => refuse

/-- Puts the rest of the pattern. -/
def setRest (rest : List Char) : Reading Unit :=
  modify fun s => { s with rest }

/-- Passes over the next character. -/
def bump : Reading Unit := do
  setRest (← get).rest.tail

/-- What follows blanks and comments. -/
def afterSpace (inComment : Bool) : List Char → List Char
  | [] => []
  | c :: cs =>
    if inComment then afterSpace (c ≠ '\n') cs
    else if Text.isBlank c then afterSpace false cs
    else if c = '#' then afterSpace true cs
    else c :: cs

/-- Passes over blanks and comments, where they do not count. -/
def space : Reading Unit := do
  let s ← get
  if s.mode.extended then setRest (afterSpace false s.rest)

/-- Passes over the next character and the blanks after it. -/
def bumpSpace : Reading Unit := do
  bump
  space

/-- Passes over a given text, if it is next. -/
def bumpIf (text : String) : Reading Bool := do
  let s ← get
  if text.toList.isPrefixOf s.rest then
    setRest (s.rest.drop text.length)
    return true
  else return false

/-- The second next character; blanks between the two are passed over where they do not count. -/
def peekSecond? : Reading (Option Char) := do
  let s ← get
  let rest := s.rest.tail
  if s.mode.extended then
    match rest.dropWhile Text.isBlank with
    | '#' :: cs => return (cs.dropWhile Text.isBlank).head?
    | cs => return cs.head?
  else return rest.head?

/-! ## Numbers -/

/-- The digits that come next, with what may stand between them. -/
def digitsOf : Nat → Reading (List Char)
  | 0 => return []
  | bound + 1 => do
    match ← peek? with
    | some c =>
      if c.isDigit then
        bumpSpace
        return c :: (← digitsOf bound)
      else return []
    | none => return []

/-- A number of 32 bits, with blanks around it; `none` if there are no digits. -/
def decimal? : Reading (Option Nat) := do
  setRest ((← get).rest.dropWhile Text.isBlank)
  let digits ← digitsOf (← get).rest.length
  setRest ((← get).rest.dropWhile Text.isBlank)
  let value := digits.foldl (fun n d => n * 10 + (d.toNat - '0'.toNat)) 0
  require (value < 0x100000000)
  return if digits.isEmpty then none else some value

/-- The value of a digit in base 16. -/
def hexDigit? (c : Char) : Option Nat :=
  if c.isDigit then some (c.toNat - '0'.toNat)
  else if 'a' ≤ c ∧ c ≤ 'f' then some (c.toNat - 'a'.toNat + 10)
  else if 'A' ≤ c ∧ c ≤ 'F' then some (c.toNat - 'A'.toNat + 10)
  else none

/-- The character of a code point. -/
def scalar (n : Nat) : Reading Char := do
  require (n < 0xD800 || (0xDFFF < n && n < 0x110000))
  return Char.ofNat n

/-- So many digits in base 16, after a number. -/
def hexDigits : Nat → Nat → Reading Nat
  | 0, value => return value
  | count + 1, value => do
    match hexDigit? (← peek) with
    | some d =>
      bumpSpace
      hexDigits count (value * 16 + d)
    | none => refuse

/-- Digits in base 16 up to a closing brace, after a number. -/
def hexBraced : Nat → Nat → Reading Nat
  | 0, _ => refuse
  | bound + 1, value => do
    let c ← peek
    if c = '\x7d' then
      bumpSpace
      return value
    else match hexDigit? c with
      | some d =>
        bumpSpace
        hexBraced bound (value * 16 + d)
      | none => refuse

/-- The character of a code in base 16, after the letter that announces it; and whether it is
    written with two digits alone. -/
def hexCode (letter : Char) : Reading (Char × Bool) := do
  if (← peek) = '\x7b' then
    bumpSpace
    require ((← peek) ≠ '\x7d')
    let bound := (← get).rest.length
    return (← scalar (← hexBraced bound 0), false)
  else
    let count := if letter = 'x' then 2 else if letter = 'u' then 4 else 8
    return (← scalar (← hexDigits count 0), letter = 'x')

/-! ## Sets and single characters -/

/-- A part of a pattern without parts. -/
inductive Primitive where
  /-- A character, and whether it is written as a byte. -/
  | char (c : Char) (byte : Bool)
  /-- A set. -/
  | set (s : CharSet)
  /-- Any character. -/
  | dot
  /-- A condition. -/
  | look (l : Look)

/-- The set, or what it lacks. -/
def signed (negated : Bool) (s : CharSet) : CharSet :=
  if negated then s.compl else s

/-- The set with the other cases of its letters, where case does not matter. -/
def foldedIn (m : Mode) (s : CharSet) : CharSet :=
  if m.insensitive then (if m.unicode then withCases s else s.withAsciiCases) else s

/-- The character, with its other cases, where case does not matter. -/
def charIn (m : Mode) (c : Char) : CharSet :=
  if m.insensitive && m.unicode then .ofRuns ((caseOrbit c.toNat).map fun code => (code, code))
  else foldedIn m (.single c.toNat)

/-- Refuses what a set lacks, if only ASCII is known. -/
def requireKnown (negated : Bool) : Reading Unit := do
  require ((← mode).unicode || !negated)

/-- The set of a letter such as `d` or `W`. -/
def letterSet (letter : Char) : Reading CharSet := do
  let negated := letter.isUpper
  requireKnown negated
  let set : CharSet := match (← mode).unicode, letter.toLower with
    | true, 'd' => CharSet.digits
    | true, 's' => CharSet.blanks
    | true, _ => CharSet.wordChars
    | false, 'd' => .range 0x30 0x39
    | false, 's' => CharSet.asciiBlanks
    | false, _ => CharSet.asciiWordChars
  return signed negated set

/-- The characters up to a closing brace, without the blanks that do not count. -/
def bracedName : Nat → Reading (List Char)
  | 0 => refuse
  | bound + 1 => do
    let c ← peek
    if c = '\x7d' then
      bump
      return []
    else
      bumpSpace
      return c :: (← bracedName bound)

/-- A name taken apart at the first place where a text stands in it. -/
def splitAt? (mark : List Char) : List Char → Option (List Char × List Char)
  | [] => none
  | c :: cs =>
    if mark.isPrefixOf (c :: cs) then some ([], (c :: cs).drop mark.length)
    else (splitAt? mark cs).map fun (l, r) => (c :: l, r)

/-- The set that a name in braces stands for, and whether its complement is meant. -/
def bracedSet (name : List Char) : Option (CharSet × Bool) :=
  match splitAt? ['!', '='] name with
  | some (p, v) => (CharSet.valued? p v).map (·, true)
  | none => match splitAt? [':'] name <|> splitAt? ['='] name with
    | some (p, v) => (CharSet.valued? p v).map (·, false)
    | none => (CharSet.named? name).map (·, false)

/-- The set of a `p` or `P` and a name. -/
def namedSet (negated : Bool) : Reading CharSet := do
  require (← mode).unicode
  let found : Option (CharSet × Bool) ← do
    let c ← peek
    if c = '\x7b' then
      bumpSpace
      pure (bracedSet (← bracedName ((← get).rest.length + 1)))
    else
      require (c ≠ '\\')
      bumpSpace
      pure ((CharSet.named? [c]).map (·, false))
  match found with
  | some (set, flipped) => return signed (negated != flipped) (foldedIn (← mode) set)
  | none => refuse

/-! ## Escapes -/

/-- Whether a character has a meaning of its own in a pattern. -/
def isMeta (c : Char) : Bool :=
  "\\.+*?()|[]\x7b\x7d^$#&-~".toList.contains c

/-- Whether a character may stand after a backslash and mean itself. -/
def isEscapable (c : Char) : Bool :=
  isMeta c || (c.toNat < 0x80 && !c.isAlphanum && c ≠ '<' && c ≠ '>')

/-- The test of words that a name in braces asks for. -/
def wordTest? : String → Option WordTest
  | "start" => some .start
  | "end" => some .stop
  | "start-half" => some .startHalf
  | "end-half" => some .stopHalf
  | _ => none

/-- Whether a character may be part of the name of a test of words. -/
def isTestChar (c : Char) : Bool :=
  c.isAlpha || c = '-'

/-- The letters of the name of a test of words. -/
def testName : Nat → Reading (List Char)
  | 0 => return []
  | bound + 1 => do
    match ← peek? with
    | some c =>
      if isTestChar c then
        bumpSpace
        return c :: (← testName bound)
      else return []
    | none => return []

/-- The test of words after `\b`: one in braces, unless the braces hold a count. -/
def boundary : Reading WordTest := do
  let s ← get
  if s.rest.head? = some '\x7b' then
    bumpSpace
    if isTestChar (← peek) then
      let name ← testName (← get).rest.length
      require ((← peek) = '\x7d')
      bump
      match wordTest? (String.ofList name) with
      | some test => return test
      | none => refuse
    else
      set s
      return .boundary
  else return .boundary

/-- What an escape stands for, after its backslash. -/
def escape : Reading Primitive := do
  let c ← peek
  let word (test : WordTest) : Reading Primitive := do
    return .look (.word (!(← mode).unicode) test)
  if c.isDigit then refuse
  else if c = 'x' ∨ c = 'u' ∨ c = 'U' then
    bumpSpace
    let (code, byte) ← hexCode c
    return .char code byte
  else if c = 'p' ∨ c = 'P' then
    bumpSpace
    return .set (← namedSet (c = 'P'))
  else
    bump
    match c with
    | 'd' | 's' | 'w' | 'D' | 'S' | 'W' => return .set (← letterSet c)
    | 'a' => return .char '\x07' false
    | 'f' => return .char '\x0c' false
    | 't' => return .char '\t' false
    | 'n' => return .char '\n' false
    | 'r' => return .char '\r' false
    | 'v' => return .char '\x0b' false
    | 'A' => return .look .textStart
    | 'z' => return .look .textEnd
    | 'b' => word (← boundary)
    | 'B' => word .noBoundary
    | '<' => word .start
    | '>' => word .stop
    | _ =>
      require (isEscapable c)
      return .char c false

/-! ## Bracketed sets -/

/-- The operations on sets in brackets. -/
inductive SetOp where
  /-- What is in both. -/
  | inter
  /-- What is in the first only. -/
  | diff
  /-- What is in just one. -/
  | symmDiff

/-- The set that an operation makes. -/
def SetOp.apply : SetOp → CharSet → CharSet → CharSet
  | .inter, a, b => .inter a b
  | .diff, a, b => .diff a b
  | .symmDiff, a, b => .symmDiff a b

/-- A bracketed set that is being read. -/
structure Bracket where
  /-- The items since the last operation, the last one first. -/
  items : List CharSet := []
  /-- How deep the parts of the items nest. -/
  height : Nat := 0
  /-- What stands before the last operation, and how deep it nests. -/
  left : Option (SetOp × CharSet × Nat) := none

/-- Adds an item. -/
def Bracket.add (b : Bracket) (s : CharSet) (height : Nat) : Bracket :=
  { b with items := s :: b.items, height := max b.height height }

/-- The items and what stands before them, taken together. -/
def Bracket.value (m : Mode) (b : Bracket) : CharSet × Nat :=
  let height := if 1 < b.items.length then b.height + 1 else b.height
  let items := CodeRanges.unions b.items
  match b.left with
  | none => (items, height)
  | some (op, set, h) => (op.apply (foldedIn m set) (foldedIn m items), max h height + 1)

/-- Begins the right side of an operation. -/
def Bracket.operate (m : Mode) (b : Bracket) (op : SetOp) : Bracket :=
  let (set, height) := b.value m
  { left := some (op, set, height) }

/-- The character that stands for itself in a set, or at an end of a run. -/
def setChar : Primitive → Reading Char
  | .char c byte => do
    require ((← mode).unicode || c.toNat < 0x80 && !(byte && 0x7F < c.toNat))
    return c
  | _ => refuse

/-- An item of a set that is not a run. -/
def setItem : Primitive → Reading CharSet
  | .set s => return s
  | p => return .single (← setChar p).toNat

/-- A character or an escape in a set. -/
def setPrimitive : Reading Primitive := do
  let c ← peek
  bump
  if c = '\\' then escape else return .char c false

/-- An item of a set: a character, an escape, or a run of characters. -/
def setRange : Reading CharSet := do
  let first ← setPrimitive
  space
  let c ← peek
  let second ← peekSecond?
  if c ≠ '-' ∨ second = some ']' ∨ second = some '-' then setItem first
  else
    bumpSpace
    let _ ← peek
    let last ← setPrimitive
    let l ← setChar first
    let r ← setChar last
    require (l ≤ r)
    return .range l.toNat r.toNat

/-- A set named between colons, and what follows it. -/
def colonSet? (cs : List Char) : Option (CharSet × Bool × List Char) :=
  match cs with
  | '[' :: ':' :: cs =>
    let negated := cs.head? = some '^'
    let cs := if negated then cs.tail else cs
    match cs.dropWhile (· ≠ ':') with
    | ':' :: ']' :: rest =>
      (CharSet.asciiClass? (String.ofList (cs.takeWhile (· ≠ ':')))).map (·, negated, rest)
    | _ => none
  | _ => none

/-- The hyphens at the beginning of a set, which stand for themselves. -/
def hyphens : Nat → Bracket → Reading Bracket
  | 0, b => return b
  | bound + 1, b => do
    if (← peek) = '-' then
      bumpSpace
      hyphens bound (b.add (.single '-'.toNat) 0)
    else return b

/-- The beginning of a set: its bracket, whether it is a complement, and what may stand only here
    without an escape. -/
def bracketStart : Reading (Bool × Bracket) := do
  bumpSpace
  let negated := (← peek) = '^'
  if negated then bumpSpace
  let b ← hyphens (← get).rest.length {}
  if b.items.isEmpty && (← peek) = ']' then
    bumpSpace
    let _ ← peek
    return (negated, b.add (.single ']'.toNat) 0)
  else return (negated, b)

mutual

/-- A set in brackets, and how deep its parts nest. -/
def bracket : Nat → Reading (CharSet × Nat)
  | 0 => refuse
  | bound + 1 => do
    let (negated, start) ← bracketStart
    let (set, height) ← bracketItems bound start
    requireKnown negated
    return (signed negated (foldedIn (← mode) set), height + 1)

/-- The items of a set up to its closing bracket. -/
def bracketItems : Nat → Bracket → Reading (CharSet × Nat)
  | 0, _ => refuse
  | bound + 1, b => do
    space
    let m ← mode
    match ← peek with
    | '[' =>
      match colonSet? (← get).rest with
      | some (set, negated, rest) =>
        setRest rest
        requireKnown negated
        bracketItems bound (b.add (signed negated (foldedIn m set)) 0)
      | none =>
        let (set, height) ← bracket bound
        bracketItems bound (b.add set height)
    | ']' =>
      bump
      return b.value m
    | _ =>
      if ← bumpIf "&&" then bracketItems bound (b.operate m .inter)
      else if ← bumpIf "--" then bracketItems bound (b.operate m .diff)
      else if ← bumpIf "~~" then bracketItems bound (b.operate m .symmDiff)
      else bracketItems bound (b.add (← setRange) 0)

end

/-! ## Parts of patterns -/

/-- A part of a pattern. -/
structure Part where
  /-- The part. -/
  pattern : Pattern
  /-- How deep its parts nest. -/
  height : Nat
  /-- Whether it may be repeated. -/
  repeatable : Bool := true

/-- The set that a point stands for. -/
def dotSet (m : Mode) : CharSet :=
  if m.dotAll then .all
  else if m.crlf then .compl (.ofRuns [(0x0A, 0x0A), (0x0D, 0x0D)])
  else .compl (.single 0x0A)

/-- The pattern of a part without parts. -/
def primitive : Primitive → Reading Pattern
  | .char c byte => do
    let m ← mode
    require (m.unicode || !(byte && 0x7F < c.toNat))
    return ofSet (charIn m c)
  | .set s => return ofSet s
  | .dot => do
    let m ← mode
    require m.unicode
    return ofSet (dotSet m)
  | .look l => return .look l

/-- Whether a repetition prefers fewer times, which a question mark after it changes. -/
def preference : Reading Bool := do
  let lazy := (← mode).lazy
  if (← peek?) = some '?' then
    bump
    return !lazy
  else return lazy

/-- The counts of a repetition, after the opening brace. -/
def counts : Reading (Nat × Option Nat) := do
  let _ ← peek
  let min ← decimal?
  match ← peek with
  | ',' =>
    bumpSpace
    if (← peek) = '\x7d' then
      match min with
      | some min => return (min, none)
      | none => refuse
    else
      match min, ← decimal? with
      | some min, some max => return (min, some max)
      | _, _ => refuse
  | _ =>
    match min with
    | some min => return (min, some min)
    | none => refuse

/-- The last part, repeated. -/
def repeated (least : Nat) (most : Option Nat) (lazy : Bool) : List Part → Reading (List Part)
  | part :: parts => do
    require part.repeatable
    return ⟨repetition least most lazy part.pattern, part.height + 1, true⟩ :: parts
  | [] => refuse

/-- How deep the parts of a list nest. -/
def heightOf (parts : List Part) : Nat :=
  (parts.map (·.height)).foldl max 0

/-- The parts, last one first, as one. -/
def joined : List Part → Part
  | [] => ⟨.empty, 0, true⟩
  | [part] => ⟨part.pattern, part.height, true⟩
  | parts => ⟨concat (parts.reverse.map (·.pattern)), heightOf parts + 1, true⟩

/-- Whether a character may be part of the name of a group. -/
def isNameChar (first : Bool) (c : Char) : Bool :=
  let isLetter := if c.toNat < 0x80 then c.isAlpha else Text.Property.alphabetic.contains c.toNat
  if first then c = '_' || isLetter
  else c = '_' || c = '.' || c = '[' || c = ']' || Text.isAlphanumeric c

/-- Whether a text may be the name of a group. -/
def isName : List Char → Bool
  | [] => false
  | c :: cs => isNameChar true c && cs.all (isNameChar false)

/-- The name of a group, up to its closing bracket. No two groups have one name. -/
def groupName : Reading Unit := do
  let s ← get
  let name := s.rest.takeWhile (· ≠ '>')
  match s.rest.dropWhile (· ≠ '>') with
  | '>' :: rest =>
    require (isName name && !s.names.contains name)
    set { s with rest, names := name :: s.names }
  | _ => refuse

/-- The mode with a flag set or taken away. -/
def Mode.with? (m : Mode) (on : Bool) : Char → Option Mode
  | 'i' => some { m with insensitive := on }
  | 'm' => some { m with multiLine := on }
  | 's' => some { m with dotAll := on }
  | 'U' => some { m with lazy := on }
  | 'u' => some { m with unicode := on }
  | 'R' => some { m with crlf := on }
  | 'x' => some { m with extended := on }
  | _ => none

/-- The mode that flags change a mode to: flags after a hyphen are taken away. No flag stands twice,
    and a hyphen stands at most once and not at the end. -/
def flagged? (m : Mode) (on : Bool) (seen : List Char) : List Char → Option Mode
  | [] => some m
  | c :: cs =>
    if seen.contains c then none
    else if c = '-' then (if cs.isEmpty then none else flagged? m false (c :: seen) cs)
    else (Mode.with? m on c).bind fun m => flagged? m on (c :: seen) cs

/-- The flags of a group, and the character that ends them. -/
def flags : Reading (List Char × Char) := do
  let rest := (← get).rest
  let letters := rest.takeWhile fun c => c ≠ ':' && c ≠ ')'
  match rest.drop letters.length with
  | c :: rest =>
    match flagged? (← mode) true [] letters with
    | some m =>
      modify fun s => { s with rest, mode := m }
      return (letters, c)
    | none => refuse
  | [] => refuse

/-- What begins with a parenthesis. -/
inductive Opening where
  /-- Only flags, which hold from here on. -/
  | flags
  /-- A group, up to a closing parenthesis. -/
  | group
  /-- A group with a number of its own. -/
  | numbered (number : Nat)

/-- Gives a group a number. -/
def numbered : Reading Opening := do
  let number := (← get).groups + 1
  modify fun s => { s with groups := number }
  return .numbered number

/-- The beginning of a group. -/
def groupStart : Reading Opening := do
  bumpSpace
  if (← bumpIf "?=") || (← bumpIf "?!") || (← bumpIf "?<=") || (← bumpIf "?<!") then refuse
  else if (← bumpIf "?P<") || (← bumpIf "?<") then
    groupName
    numbered
  else if ← bumpIf "?" then
    let (letters, c) ← flags
    if c = ')' then
      require (!letters.isEmpty)
      return .flags
    else return .group
  else numbered

/-- What is read of a group, of whose pattern the match may be told apart. -/
def Opening.wrap : Opening → Pattern → Pattern
  | .numbered number, p => .group number p
  | _, p => p

mutual

/-- The alternatives up to a closing parenthesis or the end, after those read already. -/
def alternatives : Nat → List Part → Reading Part
  | 0, _ => refuse
  | bound + 1, done => do
    let part ← sequence bound []
    if (← peek?) = some '|' then
      bump
      alternatives bound (part :: done)
    else match done with
      | [] => return part
      | _ =>
        let parts := part :: done
        return ⟨alternation (parts.reverse.map (·.pattern)), heightOf parts + 1, true⟩

/-- The parts up to a bar, a closing parenthesis or the end, after those read already. -/
def sequence : Nat → List Part → Reading Part
  | 0, _ => refuse
  | bound + 1, done => do
    space
    match ← peek? with
    | none | some '|' | some ')' => return joined done
    | some '(' =>
      let outer ← mode
      match ← groupStart with
      | .flags => sequence bound (⟨.empty, 0, false⟩ :: done)
      | opening =>
        let part ← alternatives bound []
        require ((← peek) = ')')
        bump
        modify fun s => { s with mode := outer }
        sequence bound (⟨opening.wrap part.pattern, part.height + 1, true⟩ :: done)
    | some '[' =>
      let (set, height) ← bracket ((← get).rest.length + 1)
      sequence bound (⟨ofSet set, height, true⟩ :: done)
    | some '?' =>
      bump
      sequence bound (← repeated 0 (some 1) (← preference) done)
    | some '*' =>
      bump
      sequence bound (← repeated 0 none (← preference) done)
    | some '+' =>
      bump
      sequence bound (← repeated 1 none (← preference) done)
    | some '\x7b' =>
      let _ ← repeated 0 none false done
      bumpSpace
      let (least, most) ← counts
      require ((← peek) = '\x7d')
      bumpSpace
      let lazy ← preference
      require (most.all (least ≤ ·))
      sequence bound (← repeated least most lazy done)
    | some '\\' =>
      bump
      let p ← primitive (← escape)
      sequence bound (⟨p, 0, true⟩ :: done)
    | some c =>
      bump
      let m ← mode
      let p ← primitive <| match c with
        | '.' => .dot
        | '^' => .look (if m.multiLine then .lineStart m.crlf else .textStart)
        | '$' => .look (if m.multiLine then .lineEnd m.crlf else .textEnd)
        | c => .char c false
      sequence bound (⟨p, 0, true⟩ :: done)

end

/-- A whole pattern. -/
def whole : Reading Pattern := do
  let part ← alternatives (2 * (← get).rest.length + 2) []
  require ((← get).rest.isEmpty && part.height ≤ maxNesting)
  return part.pattern

end Reading

/-- The pattern that a text writes, in the given mode. -/
def ofText? (m : Mode) (cs : List Char) : Option Pattern :=
  (Reading.whole.run { rest := cs, mode := m }).map (·.1)

end Logbook.Pattern
