import Logbook.Cli.Session

/-!
# The command line

Reads what a session is given, and prints its lines as they come.
-/

namespace Logbook.Cli

/-- A time span in the largest unit that it fills, with two places. -/
def spanText (nanos : Nat) : String :=
  let (unit, name) :=
    if 1000000000 ≤ nanos then (1000000000, "s")
    else if 1000000 ≤ nanos then (1000000, "ms")
    else if 1000 ≤ nanos then (1000, "µs")
    else (1, "ns")
  let hundredths := (nanos * 100 + unit / 2) / unit
  toString (hundredths / 100) ++ "." ++
    String.ofList (Instant.padded 2 (hundredths % 100)) ++ name

/-- What is found under a name. -/
def findFile (name : String) : IO Finding := do
  try
    return .file (← IO.FS.readBinFile name).toList
  catch
    | .inappropriateType .. => return .directory
    | _ => return .missing

/-- Prints lines. -/
def printLines (lines : List String) : IO Unit :=
  lines.forM IO.println

/-- The lines that an action makes of the time that has gone by. -/
def timed (lines : String → List String) (started : Nat) : IO (List String) := do
  return lines (spanText ((← IO.monoNanosNow) - started))

/-- Replies to the commands that are typed, until one ends the session. -/
partial def converse (s : Store) (limit : Nat) (input : IO.FS.Stream) : IO Unit := do
  let line ← input.getLine
  unless line.isEmpty do
    let command := Command.ofLine line
    unless command = .quit do
      let started ← IO.monoNanosNow
      printLines (← timed (command.reply s limit ·) started)
      converse s limit input

/-- The whole input. -/
partial def readInput (input : IO.FS.Stream) (done : ByteArray) : IO ByteArray := do
  let chunk ← input.read 65536
  if chunk.isEmpty then return done else readInput input (done ++ chunk)

/-- Ends a session early. -/
def complain (fault : Fault) : IO UInt32 := do
  IO.eprintln ("Error: " ++ fault.message)
  return 1

/-- A session with the given options. -/
def converseWith (o : Options) : IO UInt32 := do
  let input ← IO.getStdin
  let names := o.config.toList ++ o.files
  let found ← names.mapM fun name => do return (name, ← findFile name)
  let find name := (found.lookup name).getD .missing
  match settings find o with
  | .error fault => complain fault
  | .ok settings =>
    let started ← IO.monoNanosNow
    let bytes ← if o.files.isEmpty then readInput input .empty else pure .empty
    let (lines, loaded) := load find bytes.toList o settings
    printLines lines
    match loaded with
    | .error fault => complain fault
    | .ok s =>
      printLines (← timed (loadedLines s) started)
      match o.query with
      | some text =>
        let started ← IO.monoNanosNow
        printLines (← timed (fun took => (Report.ofQuery s o.rowLimit took text).lines) started)
      | none =>
        IO.println greeting
        converse s o.rowLimit input
      return 0

end Logbook.Cli

open Logbook.Cli in
/-- Does what the command line asks for. -/
def main (words : List String) : IO UInt32 := do
  match Request.ofArguments? words with
  | none =>
    IO.eprintln "error: the command line cannot be read; try --help"
    return 2
  | some .help =>
    printLines helpText
    return 0
  | some .version =>
    printLines versionText
    return 0
  | some (.run o) => converseWith o
