import Logbook.Pattern.Program
import Logbook.Pattern.Reader
import Logbook.Pattern.Room

/-!
# Patterns and flags

A pattern of a query comes with flags, one letter each. Some letters change how the pattern is read,
some are known but change nothing, and any other is refused (`Pattern.compile`). Of several faults
an unknown flag is the one that is told.
-/

namespace Logbook.Pattern

/-- Why a pattern cannot be used. -/
inductive Fault where
  /-- A flag is not known. -/
  | unknownFlag (c : Char)
  /-- The pattern is not written correctly. -/
  | malformed
  /-- The pattern takes too much room. -/
  | tooLarge
  deriving DecidableEq

/-- What is told of a fault. -/
def Fault.message : Fault → String
  | .unknownFlag c => "unknown regex flag '" ++ String.ofList [c] ++ "'"
  | .malformed => "regex parse error:"
  | .tooLarge => "Compiled regex exceeds size limit of " ++ toString maxRoom ++ " bytes."

/-- The mode that flags ask for. -/
def modeOf (m : Mode) : List Char → Except Fault Mode
  | [] => .ok m
  | 'i' :: cs => modeOf { m with insensitive := true } cs
  | 'm' :: cs => modeOf { m with multiLine := true } cs
  | 's' :: cs => modeOf { m with dotAll := true } cs
  | 'x' :: cs => modeOf { m with extended := true } cs
  | 'g' :: cs | 'u' :: cs | 'y' :: cs | 'd' :: cs => modeOf m cs
  | c :: _ => .error (.unknownFlag c)

/-- A pattern with flags, ready to be searched for. -/
def compile (source flags : String) : Except Fault Program := do
  let m ← modeOf {} flags.toList
  match ofText? m source.toList with
  | none => .error .malformed
  | some p => if fits p then .ok (program p) else .error .tooLarge

end Logbook.Pattern
