import Logbook.Store

/-!
# Reports

What is printed of the response to a query: what was asked and how much was found, the first of the
entries found, each in one numbered row, and how many more there are. Of a query that cannot be read
its errors are printed.

How long an answer took is given to a report as a text (`took`).
-/

namespace Logbook

/-- The instant of an entry as it is shown. -/
def Entry.timeText (e : Entry) : String :=
  String.ofList ((e.timestamp?.bind Instant.text?).getD ['-'])

/-- An entry in one row. -/
def Entry.row (e : Entry) : String :=
  "[" ++ e.level.name ++ "] " ++ e.timeText ++ " " ++ e.kind.name ++ " " ++
    e.environment.name ++ ": " ++ e.message

/-- The line in which an error is printed. -/
def QueryError.line (e : QueryError) : String :=
  "error: " ++ e.shown

/-- What is printed above the entries of a response. -/
def Response.heading (took : String) : Response → List String
  | .structured q a =>
    ["Structured: " ++ String.ofList q.shown,
      "Found " ++ toString a.positions.length ++ " results in " ++ took ++ " (indexes used: " ++
        (if a.usedIndex then "true" else "false") ++ ")"]
  | .freeText hits =>
    ["Free-text search: found " ++ toString hits.length ++ " results in " ++ took]
  | .invalid errors => errors.map QueryError.line

namespace Cli

/-- What is printed of a response. -/
structure Report where
  /-- What was asked. -/
  query : String
  /-- What was found, or what is wrong with the query. -/
  heading : List String
  /-- The entries that are shown. -/
  shown : List Entry
  /-- The number of entries that are not shown. -/
  more : Nat

namespace Report

/-- The report on a query. -/
def ofQuery (s : Store) (limit : Nat) (took : String) (text : String) : Report :=
  let response := s.run text
  { query := text
    heading := response.heading took
    shown := (s.entriesAt response.positions).take limit
    more := response.positions.length - limit }

/-- The rows of the entries, numbered from 1. -/
def rows (r : Report) : List String :=
  (r.shown.zipIdx 1).map fun (e, i) => toString i ++ ": " ++ e.row

/-- The lines of a report. -/
def lines (r : Report) : List String :=
  ["Query: " ++ r.query] ++ r.heading ++ r.rows ++
    if 0 < r.more then ["... " ++ toString r.more ++ " more"] else []

end Report

end Cli

end Logbook
