import Logbook.Json.Basic
import Logbook.Number.Decimal

/-!
# Values of fields

A field of an entry holds a text, a number or a truth value. Every value can be shown as a text
(`FieldValue.shown`); a whole number is shown without a fraction, so that it reads like one that was
written as a text.
-/

namespace Logbook

/-- A value that a field may hold. -/
inductive FieldValue where
  /-- A text. -/
  | text (s : String)
  /-- A number. -/
  | number (d : Double)
  /-- A truth value. -/
  | bool (b : Bool)
  deriving DecidableEq

namespace FieldValue

/-- The value of a JSON scalar. Containers and `null` are no field values. -/
def ofJson? : Json → Option FieldValue
  | .string s => some (.text s)
  | .bool b => some (.bool b)
  | v => v.double?.map .number

/-- The value as it is shown. -/
def shown : FieldValue → List Char
  | .text s => s.toList
  | .number d => d.text
  | .bool b => if b then "true".toList else "false".toList

end FieldValue

end Logbook
