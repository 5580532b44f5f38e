import Logbook.Pattern.Plain
import Logbook.Text.ByteRuns
import Std.Data.HashMap

/-!
# The room that a pattern takes

A pattern that is to be searched for quickly becomes two automata over the bytes of texts, one that
reads forwards and one that reads backwards. Counted repetitions are laid out copy by copy, so that
a short pattern may make automata of any size; a pattern is only of use if each of the two fits into
`maxRoom` bytes (`fits`). This module counts the nodes of the automata and their room without
keeping them.

* A node takes `nodeRoom` bytes. The edges of a fork take `forkRoom` bytes each; the edges of a node
  that tells several runs of bytes apart take `edgeRoom` bytes each.
* A part of a pattern begins at one node and ends at one. What follows is joined to its end, and if
  the end is a fork, that is one edge more.
* Within the nodes of a set, those that are alike are made once. They are known by a `Memory`, which
  may forget some of them.
-/

namespace Logbook.Pattern

/-! ## Counting -/

/-- The bytes of a node. -/
def nodeRoom : Nat := 32

/-- The bytes of an edge of a fork. -/
def forkRoom : Nat := 4

/-- The bytes of an edge of a node that tells bytes apart. -/
def edgeRoom : Nat := 8

/-- The bytes that an automaton may take. -/
def maxRoom : Nat := 10 * 1024 * 1024

/-- What has been counted. -/
structure Tally where
  /-- The nodes. -/
  nodes : Nat := 0
  /-- Their bytes. -/
  room : Nat := 0

/-- A step of counting, which fails where the room is used up. -/
abbrev Counting := StateT Tally Option

namespace Counting

/-- Counts nodes and bytes. -/
def add (nodes room : Nat) : Counting Unit := fun t =>
  let t : Tally := ⟨t.nodes + nodes, t.room + room⟩
  if t.room ≤ maxRoom then some ((), t) else none

/-- Counts a node with edges of some bytes; the result is its number. -/
def node (edges : Nat) : Counting Nat := do
  let t ← get
  add 1 (nodeRoom + edges)
  return t.nodes

/-- Joins what follows to an end, which may be a fork. -/
def join (isFork : Bool) : Counting Unit := do
  if isFork then add 0 forkRoom

end Counting

open Counting

/-- The direction in which a text is read. -/
inductive Direction where
  /-- From the first character to the last. -/
  | forwards
  /-- From the last character to the first. -/
  | backwards
  deriving DecidableEq

/-! ## Sets -/

/-- Nodes by their keys. A node is kept in one of some places, which is worked out from its key, and
    it drives out what was kept there. -/
structure Memory where
  /-- The number of places. -/
  places : UInt64
  /-- The keys and the nodes that are kept, by place. -/
  kept : Std.HashMap UInt64 (List Nat × Nat) := {}

namespace Memory

/-- The place of a key: its numbers are mixed in one by one. -/
def place (m : Memory) (key : List Nat) : UInt64 :=
  let mixed : UInt64 :=
    key.foldl (fun h n => (h ^^^ n.toUInt64) * 0x100000001B3) 0xCBF29CE484222325
  mixed % m.places

/-- The node of a key, if it is kept. -/
def find? (m : Memory) (key : List Nat) : Option Nat :=
  match m.kept[m.place key]? with
  | some (k, node) => if k = key then some node else none
  | none => none

/-- Keeps a node. -/
def keep (m : Memory) (key : List Nat) (node : Nat) : Memory :=
  { m with kept := m.kept.insert (m.place key) (key, node) }

end Memory

/-- A step of counting with a memory. -/
abbrev Remembering := StateT Memory Counting

/-- The node of a key, which is counted if it is not remembered. -/
def remembered (key : List Nat) (edges : Nat) : Remembering Nat := do
  match (← get).find? key with
  | some node => return node
  | none =>
    let node ← node edges
    modify (·.keep key node)
    return node

/-- A node to which edges are still added. -/
structure OpenNode where
  /-- The edges: the ends of a run of bytes and the node that it leads to. -/
  edges : Array Nat := #[]
  /-- The run of bytes of an edge whose node is not known yet. -/
  pending : Option (Nat × Nat) := none

/-- Leads the edge whose node is not known to a node. -/
def OpenNode.lead (n : OpenNode) (node : Nat) : OpenNode :=
  match n.pending with
  | some (first, last) => { edges := n.edges ++ #[first, last, node] }
  | none => n

/-- The node, with all its edges. -/
def OpenNode.close (n : OpenNode) : Remembering Nat :=
  remembered n.edges.toList (n.edges.size / 3 * edgeRoom)

/-- Closes the open nodes of a path below a depth, the deepest first, which leads to `target`. -/
def closeBelow (target depth : Nat) (path : List OpenNode) : Remembering (List OpenNode) := do
  let node ← (path.drop (depth + 1)).foldrM (fun n node => (n.lead node).close) target
  match (path.take (depth + 1)).reverse with
  | [] => return []
  | n :: above => return (n.lead node :: above).reverse

/-- How many runs of bytes a path of open nodes shares with a sequence that is to be added. -/
def sharedDepth : List OpenNode → Text.ByteRuns → Nat
  | n :: path, run :: runs => if n.pending = some run then sharedDepth path runs + 1 else 0
  | _, _ => 0

/-- Opens the nodes for a sequence of runs of bytes at the end of a path. -/
def opened (path : List OpenNode) : Text.ByteRuns → List OpenNode
  | [] => path
  | run :: runs =>
    match path.reverse with
    | [] => []
    | n :: above =>
      ({ n with pending := some run } :: above).reverse ++
        runs.map fun run => { pending := some run }

/-- Counts the nodes of sequences of runs of bytes that are read forwards: those that begin alike
    share their beginnings, and nodes with the same edges are one. -/
def countForwards (sequences : List Text.ByteRuns) : Counting Unit := do
  let target ← node 0
  let step (path : List OpenNode) (runs : Text.ByteRuns) : Remembering (List OpenNode) := do
    let depth := sharedDepth path runs
    return opened (← closeBelow target depth path) (runs.drop depth)
  let all : Remembering Unit := do
    let path ← sequences.foldlM step [{}]
    for n in ← closeBelow target 0 path do
      let _ ← n.close
  let _ ← all.run { places := 10000 }

/-- Counts the nodes of sequences of runs of bytes that are read backwards: those that end alike
    share their ends. -/
def countBackwards (sequences : List Text.ByteRuns) : Counting Unit := do
  let _ ← node 0
  let target ← node 0
  let step (runs : Text.ByteRuns) : Remembering Unit := do
    let _ ← runs.foldlM (fun node (first, last) => remembered [node, first, last] 0) target
    add 0 forkRoom
  let _ ← (sequences.forM step).run { places := 1000 }

/-- Counts the nodes of a set. -/
def countSet (d : Direction) (s : CharSet) : Counting Unit := do
  if s.runs.all fun (_, last) => last < 0x80 then
    let _ ← node 0
    let _ ← node (s.runs.size * edgeRoom)
  else
    let sequences := s.runs.toList.flatMap fun (first, last) => Text.byteRuns first last
    match d with
    | .forwards => countForwards sequences
    | .backwards => countBackwards sequences

/-! ## Choices of texts -/

/-- The texts of a choice of texts. -/
def texts? : Pattern → Option (List (List Char))
  | .text cs => some [cs]
  | .alt (.text cs) q => (texts? q).map (cs :: ·)
  | _ => none

/-- The bytes of a text, in the order in which they are read. -/
def bytesOf (d : Direction) (cs : List Char) : List Nat :=
  let bytes := (String.ofList cs).toUTF8.toList.map (·.toNat)
  match d with
  | .forwards => bytes
  | .backwards => bytes.reverse

/-- The rests of words at a node, cut where a word ends there. That words end before the first rest
    counts once. -/
def restsBetweenEnds (rests : List (List Nat)) : List (List (List Nat)) :=
  let cut (rest : List Nat) : List (List (List Nat)) → List (List (List Nat))
    | near :: far => if rest.isEmpty then [] :: near :: far else (rest :: near) :: far
    | [] => [[rest]]
  let ends := rests.takeWhile (·.isEmpty)
  (ends.take 1 ++ rests.drop ends.length).foldr cut [[]]

/-- Counts the nodes of a tree of words, to a bounded depth: at every place where words go on, a
    node for each group of rests, and a fork to these and to the end, where words end. -/
def countTree : Nat → List (List Nat) → Counting Unit
  | 0, _ => return
  | depth + 1, rests => do
    let groups := restsBetweenEnds rests
    let full := groups.filter (!·.isEmpty)
    if full.isEmpty then return
    for part in full do
      let heads := (part.filterMap List.head?).eraseDups
      for head in heads do
        countTree depth ((part.filter (·.head? = some head)).map List.tail)
      let _ ← node (if heads.length = 1 then 0 else heads.length * edgeRoom)
    let _ ← node ((full.length + (groups.length - 1)) * forkRoom)

/-! ## Patterns -/

/-- Where a part stands in a choice. -/
inductive Place where
  /-- Not in a choice, or first in it. -/
  | first
  /-- Second, after a part whose end may be a fork. -/
  | second (isFork : Bool)
  /-- After the second. -/
  | later

/-- Joins a part to its choice, where `isFork` says whether it ends in a fork; the result says this
    of the whole. -/
def settle (isFork : Bool) : Place → Counting Bool
  | .first => return isFork
  | .second isFork' => do
    let _ ← node (2 * forkRoom)
    let _ ← node 0
    join isFork'
    join isFork
    return false
  | .later => do
    add 0 forkRoom
    join isFork
    return false

/-- Counts copies of a part, one after another, after an end. -/
def countCopies (part : Counting Bool) : Nat → Bool → Counting Bool
  | 0, isFork => return isFork
  | n + 1, isFork => do
    let isFork' ← part
    join isFork
    countCopies part n isFork'

/-- Counts so many copies of a part. -/
def countExactly (part : Counting Bool) : Nat → Counting Bool
  | 0 => do
    let _ ← node 0
    return false
  | n + 1 => do countCopies part n (← part)

/-- Counts copies of a part that may be left out together with those after them, after an end. -/
def countOptional (part : Counting Bool) : Nat → Bool → Counting Unit
  | 0, isFork => join isFork
  | n + 1, isFork => do
    let _ ← node (2 * forkRoom)
    let isFork' ← part
    join isFork
    countOptional part n isFork'

/-- Counts a part that is repeated without limit. What may be empty needs a node more. -/
def countEndless (mayBeEmpty : Bool) (part : Counting Bool) : Nat → Counting Bool
  | 0 => do
    if mayBeEmpty then
      join (← part)
      let _ ← node (2 * forkRoom)
      let _ ← node (2 * forkRoom)
      let _ ← node 0
      return false
    else
      let _ ← node forkRoom
      join (← part)
      return true
  | least + 1 => do
    if 0 < least then
      join (← countExactly part least)
    join (← part)
    let _ ← node forkRoom
    return true

/-- Counts a repetition. -/
def countRepetition (mayBeEmpty : Bool) (part : Counting Bool) (least : Nat) :
    Option Nat → Counting Bool
  | none => countEndless mayBeEmpty part least
  | some most => do
    if least = 0 && most = 1 then
      let _ ← node (2 * forkRoom)
      join (← part)
      let _ ← node 0
      return false
    else
      let isFork ← countExactly part least
      if least = most then return isFork
      let _ ← node 0
      countOptional part (most - least) isFork
      return false

/-- Counts the nodes of a pattern; the result says whether it ends in a fork. -/
def count (d : Direction) (place : Place) : Pattern → Counting Bool
  | .empty => do
    let _ ← node 0
    settle false place
  | .text cs => do
    let bytes := (bytesOf d cs).length
    add bytes (bytes * nodeRoom)
    settle false place
  | .char s => do
    countSet d s
    settle false place
  | .look _ => do
    let _ ← node 0
    settle false place
  | .group _ p => do
    match d with
    | .forwards =>
      let _ ← node 0
      let isFork ← count d .first p
      let _ ← node 0
      join isFork
      settle false place
    | .backwards => settle (← count d .first p) place
  | .seq p q => do
    match d with
    | .forwards =>
      let isFork ← count d .first p
      let isFork' ← count d .first q
      join isFork
      settle isFork' place
    | .backwards =>
      let isFork' ← count d .first q
      let isFork ← count d .first p
      join isFork'
      settle isFork place
  | .alt p q => do
    match place, texts? (.alt p q) with
    | .first, some texts =>
      let _ ← node 0
      let words := texts.map (bytesOf d)
      countTree ((words.map List.length).foldl max 0 + 1) words
      return false
    | .first, none => count d (.second (← count d .first p)) q
    | place, _ =>
      let _ ← settle (← count d .first p) place
      count d .later q
  | .repeat least most _ p => do
    settle (← countRepetition (p.minLength.all (· = 0)) (count d .first p) least most) place

/-- Counts the nodes of an automaton: the way to the places where a match may begin, the pattern,
    and what tells that a match is found. -/
def countAutomaton (d : Direction) (p : Pattern) : Counting Unit := do
  let isAnchored := match d with
    | .forwards => p.leads .textStart
    | .backwards => p.trails .textEnd
  if isAnchored then
    let _ ← node 0
  else
    let _ ← node (2 * forkRoom)
    let _ ← node 0
    let _ ← node edgeRoom
  let isFork ← count d .first (.group 0 p)
  let _ ← node 0
  join isFork

/-- Whether the automata of a pattern fit into the room that there is for them. -/
def fits (p : Pattern) : Bool :=
  [Direction.forwards, .backwards].all fun d => ((countAutomaton d p).run {}).isSome

end Logbook.Pattern
