import Logbook.Pattern.Basic

/-!
# Searching for patterns

To be searched for, a pattern is laid out as a list of instructions that refer to each other by
their numbers; a counted repetition is laid out copy by copy. A search goes through the text once
and keeps the set of instructions that may be next at each place (`Front`), so that its time is
bounded by the product of the two lengths, however the pattern is written.
-/

namespace Logbook.Pattern

/-- A step of a search. -/
inductive Instruction where
  /-- Takes a character of a set and goes on elsewhere. -/
  | char (s : CharSet) (next : Nat)
  /-- Goes on elsewhere, if a condition holds. -/
  | look (l : Look) (next : Nat)
  /-- Goes on in two places. -/
  | split (a b : Nat)
  /-- A match is found. -/
  | accept

instance : Inhabited Instruction := ⟨.accept⟩

/-- A pattern laid out as instructions. -/
structure Program where
  /-- The instructions. -/
  code : Array Instruction
  /-- The number of the first one. -/
  start : Nat

/-! ## Layout -/

/-- Does a step so many times. -/
def times {α : Type} (f : α → α) : Nat → α → α
  | 0, a => a
  | n + 1, a => times f n (f a)

/-- Adds the instructions of a pattern that goes on at `next`; the first number is where it
    begins. -/
def layOut : Pattern → Nat × Array Instruction → Nat × Array Instruction
  | .empty, (next, code) => (next, code)
  | .text cs, (next, code) =>
    cs.foldr (fun c (next, code) => (code.size, code.push (.char (.single c.toNat) next)))
      (next, code)
  | .char s, (next, code) => (code.size, code.push (.char s next))
  | .look l, (next, code) => (code.size, code.push (.look l next))
  | .group _ p, (next, code) => layOut p (next, code)
  | .seq p q, (next, code) => layOut p (layOut q (next, code))
  | .alt p q, (next, code) =>
    let (a, code) := layOut p (next, code)
    let (b, code) := layOut q (next, code)
    (code.size, code.push (.split a b))
  | .repeat least most _ p, (next, code) =>
    let tail := match most with
      | none =>
        let entry := code.size
        let (body, code) := layOut p (entry, code.push (.split next next))
        (entry, code.setIfInBounds entry (.split body next))
      | some most =>
        times (fun (entry, code) =>
          let (body, code) := layOut p (entry, code)
          (code.size, code.push (.split body next))) (most - least) (next, code)
    times (layOut p) least tail

/-- The instructions of a pattern. -/
def program (p : Pattern) : Program :=
  let (start, code) := layOut p (0, #[.accept])
  ⟨code, start⟩

/-! ## Search -/

/-- The instructions that may be next at a place of the text. -/
structure Front where
  /-- Which instructions have been looked at. -/
  seen : Array Bool
  /-- Those that wait for a character. -/
  waiting : List Nat
  /-- Whether a match ends here. -/
  accepted : Bool

namespace Program

/-- Follows instructions that take no character, for a bounded number of steps. -/
def follow (prog : Program) (before after : Option Char) : Nat → List Nat → Front → Front
  | 0, _, front => front
  | _, [], front => front
  | bound + 1, pc :: pcs, front =>
    if front.seen.getD pc true then follow prog before after bound pcs front
    else
      let front := { front with seen := front.seen.setIfInBounds pc true }
      match prog.code[pc]? with
      | none => follow prog before after bound pcs front
      | some .accept => { front with accepted := true }
      | some (.char ..) =>
        follow prog before after bound pcs { front with waiting := pc :: front.waiting }
      | some (.look l next) =>
        follow prog before after bound (if l.holds before after then next :: pcs else pcs) front
      | some (.split a b) => follow prog before after bound (a :: b :: pcs) front

/-- The instructions that may be next between two characters, where those given are. Each of them
    is looked at once and leads to at most two. -/
def front (prog : Program) (before after : Option Char) (pcs : List Nat) : Front :=
  follow prog before after (pcs.length + 2 * prog.code.size + 1) pcs
    ⟨Array.replicate prog.code.size false, [], false⟩

/-- Where an instruction goes on after a character. -/
def step? (prog : Program) (c : Char) (pc : Nat) : Option Nat :=
  match prog.code[pc]? with
  | some (.char s next) => if s.contains c.toNat then some next else none
  | _ => none

/-- Whether a match ends in a text or begins in it, where `pcs` may be next for matches that began
    before. -/
def searchFrom (prog : Program) (before : Option Char) (pcs : List Nat) : List Char → Bool
  | [] => (prog.front before none (prog.start :: pcs)).accepted
  | c :: cs =>
    let front := prog.front before (some c) (prog.start :: pcs)
    front.accepted || searchFrom prog (some c) (front.waiting.filterMap (prog.step? c)) cs

/-- Whether the pattern matches somewhere in a text. -/
def isMatch (prog : Program) (cs : List Char) : Bool :=
  prog.searchFrom none [] cs

end Program

end Logbook.Pattern
