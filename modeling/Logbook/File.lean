/-!
# Files

A file is a list of bytes. Its lines are what stands between its newlines; every line keeps the
newline that ends it, so that the lines put together are the file, and the last one may lack it.
-/

namespace Logbook

/-- The bytes of a file. -/
abbrev Bytes := List UInt8

namespace Bytes

/-- The byte that ends a line. -/
def newline : UInt8 := 10

/-- Puts a byte in front of lines. -/
def extend (b : UInt8) (lines : List Bytes) : List Bytes :=
  if b = newline then [b] :: lines
  else match lines with
    | [] => [[b]]
    | line :: lines => (b :: line) :: lines

/-- The lines of a file. -/
def lines (bytes : Bytes) : List Bytes :=
  bytes.foldr extend []

/-- The text that the bytes write in UTF-8. -/
def text? (bytes : Bytes) : Option String :=
  String.fromUTF8? ⟨bytes.toArray⟩

end Bytes

/-- What is found under the name of a file. -/
inductive Finding where
  /-- Nothing. -/
  | missing
  /-- A directory. -/
  | directory
  /-- A file. -/
  | file (bytes : Bytes)

/-- Why a file cannot be read. -/
inductive FileFault where
  /-- There is no such file. -/
  | missing
  /-- It is a directory. -/
  | directory
  /-- It is not written in UTF-8. -/
  | notText
  deriving DecidableEq

/-- What is told of a fault. -/
def FileFault.message : FileFault → String
  | .missing => "i/o error: No such file or directory (os error 2)"
  | .directory => "i/o error: Is a directory (os error 21)"
  | .notText => "i/o error: stream did not contain valid UTF-8"

namespace Finding

/-- The bytes of what is found. -/
def bytes : Finding → Except FileFault Bytes
  | .missing => .error .missing
  | .directory => .error .directory
  | .file bytes => .ok bytes

/-- The text of what is found. -/
def text (f : Finding) : Except FileFault String := do
  match (← f.bytes).text? with
  | some s => return s
  | none => throw .notText

end Finding

end Logbook
