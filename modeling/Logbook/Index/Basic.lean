import Logbook.Entry.View
import Logbook.Index.Keywords
import Logbook.Settings
import Std.Data.TreeMap
import Std.Data.TreeSet

/-!
# Indexes

An index tells at which positions of a store the entries of a level, an environment or a kind stand,
which messages hold a keyword, and which entries have an instant in a range. It is built from a list
of entries (`Index.build`) and extended by one entry or by a batch (`Index.add`, `Index.addBatch`);
nothing is ever taken out.

For every key there is a *posting*, the positions of its entries in the order in which they were
added. Since only the first few keywords of a message are indexed, the positions of messages with
more of them are kept apart (`Index.overflow`); a search by keyword has to look at those as well. The
instants stand in ascending order, equal ones by position, so that a range is a stretch of them.
-/

namespace Logbook

/-- The positions of the entries under every key. -/
abbrev Postings := Std.TreeMap String (Array Nat)

namespace Postings

/-- The positions under a key. -/
def under (p : Postings) (key : String) : Array Nat :=
  p.getD key #[]

/-- Adds a position under a key. -/
def push (p : Postings) (key : String) (position : Nat) : Postings :=
  p.alter key fun old => some ((old.getD #[]).push position)

/-- Adds a position under a key, unless it was the last one added there. -/
def pushNew (p : Postings) (key : String) (position : Nat) : Postings :=
  p.alter key fun old =>
    let old := old.getD #[]
    some (if old.back? = some position then old else old.push position)

end Postings

/-- An instant and the position of its entry. -/
structure Slot where
  /-- The instant. -/
  timestamp : Int
  /-- The position. -/
  position : Nat
  deriving DecidableEq, Inhabited

namespace Slot

/-- Whether a slot stands before another one, by instant and then by position. -/
def before (a b : Slot) : Bool :=
  a.timestamp < b.timestamp || (a.timestamp = b.timestamp && a.position < b.position)

/-- Puts a slot into its place in a sorted list. -/
def insert (s : Slot) (slots : List Slot) : List Slot :=
  slots.takeWhile (·.before s) ++ s :: slots.dropWhile (·.before s)

/-- The slots in their order. -/
def sort (slots : List Slot) : List Slot :=
  slots.mergeSort fun a b => !b.before a

end Slot

/-- An index of entries. -/
structure Index where
  /-- The positions of every level. -/
  byLevel : Postings
  /-- The positions of every environment. -/
  byEnvironment : Postings
  /-- The positions of every kind. -/
  byKind : Postings
  /-- The positions of the messages with a keyword. -/
  byKeyword : Postings
  /-- The positions of the messages with more keywords than are indexed. -/
  overflow : Array Nat
  /-- The instants, in order. -/
  timestamps : List Slot
  /-- The position after the last one that was added. -/
  total : Nat
  /-- The keywords of a message that are indexed. -/
  keywordLimit : Nat
  /-- The length of the shortest keyword. -/
  minKeywordLength : Nat

namespace Index

/-- The index of no entries. -/
def empty (s : Settings) : Index :=
  ⟨∅, ∅, ∅, ∅, #[], [], 0, s.keywordLimit, s.minKeywordLength⟩

/-! ## Adding entries -/

/-- Adds an entry at a position under its keys. -/
def post (x : Index) (e : Entry) (position : Nat) : Index :=
  let keywords := Keywords.ofMessage x.keywordLimit x.minKeywordLength e.message
  { x with
    byLevel := x.byLevel.push e.level.name position
    byEnvironment := x.byEnvironment.push e.environment.name position
    byKind := x.byKind.push e.kind.name position
    byKeyword := keywords.kept.foldl (fun p key => p.pushNew key position) x.byKeyword
    overflow := if keywords.overflows then x.overflow.push position else x.overflow }

/-- The slot of an entry at a position, if it has an instant. -/
def slot? (e : Entry) (position : Nat) : Option Slot :=
  e.timestamp?.map fun t => ⟨t, position⟩

/-- Adds an entry at a position. -/
def add (x : Index) (e : Entry) (position : Nat) : Index :=
  let x := x.post e position
  { x with
    timestamps := match slot? e position with
      | some s => s.insert x.timestamps
      | none => x.timestamps
    total := max x.total (position + 1) }

/-- Entries with the positions from `start` on. -/
def placed (es : List Entry) (start : Nat) : List (Entry × Nat) :=
  es.zipIdx start

/-- Adds entries at the positions from `start` on. -/
def addBatch (x : Index) (es : List Entry) (start : Nat) : Index :=
  let x := (placed es start).foldl (fun x (e, i) => x.post e i) x
  { x with
    timestamps := Slot.sort (x.timestamps ++ (placed es start).filterMap fun (e, i) => slot? e i)
    total := max x.total (start + es.length) }

/-- The index without its entries. -/
def clear (x : Index) : Index :=
  ⟨∅, ∅, ∅, ∅, #[], [], 0, x.keywordLimit, x.minKeywordLength⟩

/-- The index of a list of entries, with the settings of an index. -/
def build (x : Index) (es : List Entry) : Index :=
  x.clear.addBatch es 0

/-! ## Looking up -/

/-- A text in small letters. -/
def key (s : String) : String :=
  String.ofList (Text.lower s.toList)

/-- The positions of a level. -/
def ofLevel (x : Index) (level : String) : List Nat :=
  (x.byLevel.under (key level)).toList

/-- The positions of an environment. -/
def ofEnvironment (x : Index) (environment : String) : List Nat :=
  (x.byEnvironment.under (key environment)).toList

/-- The positions of a kind. -/
def ofKind (x : Index) (kind : String) : List Nat :=
  (x.byKind.under (key kind)).toList

/-- The positions of the messages with a keyword. -/
def ofKeyword (x : Index) (keyword : String) : List Nat :=
  (x.byKeyword.under (key keyword)).toList

/-- The positions of the entries from one instant to another, in the order of the instants. A
    missing bound does not bound. -/
def inRange (x : Index) (first last : Option Int) : List Nat :=
  ((x.timestamps.dropWhile fun s => first.any (s.timestamp < ·)).takeWhile
    fun s => last.all (s.timestamp ≤ ·)).map (·.position)

/-- Whether a word is one that would be indexed as a keyword. -/
def isIndexable (x : Index) (word : List Char) : Bool :=
  !word.isEmpty && !word.any Text.isBlank && isKeyword x.minKeywordLength (Text.lower word)

/-- Positions in ascending order, each once. -/
def ascending (positions : List Nat) : List Nat :=
  (Std.TreeSet.ofList positions).toList

/-- The positions of all messages in which a text may stand: those with a keyword of which it is a
    part, and those with more keywords than are indexed. There is no answer if the text could stand
    in a message outside its keywords. -/
def candidates? (x : Index) (needle : List Char) : Option (List Nat) :=
  let needle := Text.lower needle
  if !x.isIndexable needle || stopwords.any fun w => Text.hasInfix needle w.toList then none
  else
    let found := x.byKeyword.toList.flatMap fun (word, positions) =>
      if Text.hasInfix needle word.toList then positions.toList else []
    some (ascending (found ++ x.overflow.toList))

/-- The sizes of the index in one line. -/
def shown (x : Index) : String :=
  "FieldIndexer: entries " ++ toString x.total ++ " levels " ++ toString x.byLevel.size ++
    " environments " ++ toString x.byEnvironment.size ++ " kinds " ++ toString x.byKind.size ++
    " keywords " ++ toString x.byKeyword.size ++ " overflowed " ++ toString x.overflow.size ++
    " timestamps " ++ toString x.timestamps.length

end Index

end Logbook
