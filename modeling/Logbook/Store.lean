import Logbook.Ingest
import Logbook.Query.Eval
import Logbook.Query.Outcome
import Logbook.Search.Rank

/-!
# Stores

A store holds entries and an index of them. Entries are added at the end, one by one, in batches or
from a file, and never taken out, so that an entry keeps its position. What a person types is
answered as the query or the free text that it is (`Store.run`).
-/

namespace Logbook

/-- A store of entries. -/
structure Store where
  /-- The entries. -/
  entries : Array Entry
  /-- The index of the entries. -/
  index : Index
  /-- The settings. -/
  settings : Settings

/-- The response to what a person types. -/
inductive Response where
  /-- A query and the answer to it. -/
  | structured (q : Query) (a : Answer)
  /-- What free text found, best first. -/
  | freeText (hits : List Hit)
  /-- The errors of a query that cannot be read. -/
  | invalid (errors : List QueryError)

namespace Response

/-- The positions of the entries in a response, in its order. -/
def positions : Response → List Nat
  | .structured _ a => a.positions
  | .freeText hits => hits.map (·.position)
  | .invalid _ => []

end Response

namespace Store

/-- A store without entries. -/
def empty (s : Settings) : Store :=
  ⟨#[], .empty s, s⟩

/-- The number of entries. -/
def size (s : Store) : Nat :=
  s.entries.size

/-- The entry at a position. -/
def get? (s : Store) (position : Nat) : Option Entry :=
  s.entries[position]?

/-- The entries at the given positions, without those that there are not. -/
def entriesAt (s : Store) (positions : List Nat) : List Entry :=
  positions.filterMap s.get?

/-- Adds an entry. -/
def push (s : Store) (e : Entry) : Store :=
  { s with entries := s.entries.push e, index := s.index.add e s.size }

/-- Adds entries. -/
def pushBatch (s : Store) (es : List Entry) : Store :=
  { s with entries := s.entries ++ es, index := s.index.addBatch es s.size }

/-- Adds the entries of a file. -/
def ingest (s : Store) (bytes : Bytes) : Except FileFault Store :=
  (readEntries bytes).map s.pushBatch

/-- Makes the index anew. -/
def rebuild (s : Store) : Store :=
  { s with index := (Index.empty s.settings).build s.entries.toList }

/-- What queries are answered from. -/
def source (s : Store) : Source :=
  ⟨s.entries, some s.index⟩

/-- The response to a typed text. -/
def run (s : Store) (text : String) : Response :=
  let outcome := Outcome.ofText text
  if outcome.errors.isEmpty then
    match outcome.query?, outcome.isFreeText with
    | some q, false => .structured q (s.source.answer q)
    | _, _ => .freeText (search s.settings s.entries text)
  else .invalid outcome.errors

/-- The sizes and the settings of a store, in two lines. -/
def shown (s : Store) : String :=
  s.index.shown ++ "\n" ++ s.settings.shown

end Store

end Logbook
