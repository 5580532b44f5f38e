import Logbook.Entry.View
import Logbook.Field.Value
import Logbook.Query.Basic
import Logbook.Text.Case

/-!
# Comparing fields with literals

Before a literal is compared with a field, it takes the form that the field has
(`Literal.coerce`): a date becomes an instant, and a native name of a level or an environment its
canonical name. Two numbers then compare by value. In any other case the texts compare as which the
values are shown: for equality without regard to case, for order character by character.
-/

namespace Logbook

/-- The value that a literal stands for in a comparison with a field. -/
def Literal.coerce (field : String) (v : Literal) : FieldValue :=
  let plain : FieldValue := match v.type with
    | .number => ((Double.ofText? v.value.toList).map .number).getD (.text v.value)
    | .boolean => .bool (v.value = "true")
    | .string => .text v.value
  match field with
  | "timestamp" =>
    match v.type, Instant.ofText? v.value with
    | .string, some t => .number (.ofInt t)
    | _, _ => plain
  | "level" => ((Level.ofAlias? v.value).map fun l => .text l.name).getD plain
  | "environment" | "env" =>
    ((Environment.ofAlias? v.value).map fun e => .text e.name).getD plain
  | _ => plain

/-- Whether two values that compare so are in the relation of the operator. -/
def CompareOp.holds (op : CompareOp) (o : Ordering) : Bool :=
  match op with
  | .eq => o = .eq
  | .ne => o ≠ .eq
  | .gt => o = .gt
  | .lt => o = .lt
  | .ge => o ≠ .lt
  | .le => o ≠ .gt

/-- Whether a field's value is in the relation of the operator to an expected value. -/
def FieldValue.compares (actual : FieldValue) (op : CompareOp) (expected : FieldValue) : Bool :=
  match actual, expected with
  | .number a, .number b => (a.compare? b).any op.holds
  | _, _ =>
    match op with
    | .eq => Text.lower actual.shown = Text.lower expected.shown
    | .ne => Text.lower actual.shown ≠ Text.lower expected.shown
    | op => op.holds (compareOfLessAndEq actual.shown expected.shown)

end Logbook
