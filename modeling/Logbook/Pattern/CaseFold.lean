import Logbook.Pattern.Categories
import Logbook.Text.Case
import Logbook.Text.RangeAlgebra

/-!
# Letters that differ in case only

Two letters count as one letter in two cases if they have the same folded form. A capital folds to
its small letter, and a few small letters, such as the final sigma or the long s, fold to the common
form of the same letter. `caseOrbit` gives all forms of a letter, and `withCases` adds to a set the
other cases of its letters.

Patterns know the characters of version 16 of Unicode; letters that came later fold to nothing else.
-/

namespace Logbook.Pattern

open Text (CaseRun)

/-- Forms of small letters that fold to a common form. -/
def variants : List CaseRun :=
  [⟨0xB5, 0xB5, 1, 0x3BC⟩, ⟨0x17F, 0x17F, 1, 0x73⟩, ⟨0x345, 0x345, 1, 0x3B9⟩,
   ⟨0x3C2, 0x3C2, 1, 0x3C3⟩, ⟨0x3D0, 0x3D0, 1, 0x3B2⟩, ⟨0x3D1, 0x3D1, 1, 0x3B8⟩,
   ⟨0x3D5, 0x3D5, 1, 0x3C6⟩, ⟨0x3D6, 0x3D6, 1, 0x3C0⟩, ⟨0x3F0, 0x3F0, 1, 0x3BA⟩,
   ⟨0x3F1, 0x3F1, 1, 0x3C1⟩, ⟨0x3F5, 0x3F5, 1, 0x3B5⟩, ⟨0x1C80, 0x1C80, 1, 0x432⟩,
   ⟨0x1C81, 0x1C81, 1, 0x434⟩, ⟨0x1C82, 0x1C82, 1, 0x43E⟩, ⟨0x1C83, 0x1C84, 1, 0x441⟩,
   ⟨0x1C85, 0x1C85, 1, 0x442⟩, ⟨0x1C86, 0x1C86, 1, 0x44A⟩, ⟨0x1C87, 0x1C87, 1, 0x463⟩,
   ⟨0x1C88, 0x1C88, 1, 0xA64B⟩, ⟨0x1E9B, 0x1E9B, 1, 0x1E61⟩, ⟨0x1FBE, 0x1FBE, 1, 0x3B9⟩,
   ⟨0x1FD3, 0x1FD3, 1, 0x390⟩, ⟨0x1FE3, 0x1FE3, 1, 0x3B0⟩, ⟨0xFB06, 0xFB06, 1, 0xFB05⟩]

/-- The letters of a run, each with the letter that it folds to. -/
def foldingsOf (r : CaseRun) : List (Nat × Nat) :=
  (List.range ((r.last - r.first) / r.step + 1)).map fun i =>
    (r.first + i * r.step, r.image + i * r.step)

/-- The code points that are no characters in the version that patterns know. -/
def unassigned : CodeRanges :=
  (setOf? categories "cn").getD .empty

/-- The letters that fold to another one, each with that one. -/
def foldings : List (Nat × Nat) :=
  ((variants ++ Text.capitals).flatMap foldingsOf).filter fun (code, _) =>
    !unassigned.contains code

/-- The folded form of a code point. -/
def foldCode (code : Nat) : Nat :=
  (foldings.lookup code).getD code

/-- The code points with the same folded form as the given one. -/
def caseOrbit (code : Nat) : List Nat :=
  let folded := foldCode code
  folded :: (foldings.filter fun (_, form) => form = folded).map (·.1)

/-- The set with the code points that have the same folded form as one of its own. -/
def withCases (s : CodeRanges) : CodeRanges :=
  let forms := (foldings.filter fun (code, _) => s.contains code).map fun (_, form) => (form, form)
  let t := CodeRanges.ofRuns (s.runs.toList ++ forms)
  let origins := (foldings.filter fun (_, form) => t.contains form).map fun (code, _) => (code, code)
  .ofRuns (t.runs.toList ++ origins)

end Logbook.Pattern
