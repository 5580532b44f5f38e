import Logbook.Entry.Shape
import Logbook.File
import Logbook.Json.Draft

/-!
# Taking in lines

Logs are read line by line. Every line of a file has to be a text, or nothing is taken in
(`readEntries`).

A line that holds nothing but blanks gives no entry. One that is a JSON object is taken for the
record that it is, and any other line is kept word for word, without what ends it
(`Entry.ofLine?`).
-/

namespace Logbook

/-- Whether a character ends lines. -/
def isLineEnd (c : Char) : Bool :=
  c = '\n' || c = '\r'

/-- The record that a text is, if it is a JSON object. -/
def Entry.ofObjectText? (cs : List Char) : Option Entry :=
  match Json.ofText? cs with
  | some (.object fields) => some (.classify (.object fields))
  | _ => none

/-- The entry of a line, unless it is blank. -/
def Entry.ofLine? (line : String) : Option Entry :=
  let cs := Text.stripEnd isLineEnd line.toList
  if Text.isBlankText cs then none
  else (ofObjectText? (Text.trim cs)).getD (.text (String.ofList cs))

/-- The entries of a file. -/
def readEntries (bytes : Bytes) : Except FileFault (List Entry) :=
  match bytes.lines.mapM Bytes.text? with
  | none => .error .notText
  | some lines => .ok (lines.filterMap Entry.ofLine?)

end Logbook
