import Logbook.Entry.View
import Logbook.Search.EditDistance
import Logbook.Search.Terms
import Logbook.Settings

/-!
# Ranking

A text matches search terms if every phrase stands in it, and every stem does, or, where that is
allowed, differs by one edit from a word of it (`matchesTerms`). How well it matches is counted in
points (`relevance`): for every phrase, for every place where a stem stands, more if a word begins
there or the text does, and a little for a word that differs. Points have 32 bits: a sum that does
not fit wraps around, and so does the number of places.

`search` gives the entries that match, best first and in the order of the store among equals. If
nothing is asked for, all entries match equally well.
-/

namespace Logbook

/-- The points of a phrase. -/
def phrasePoints : UInt32 := 100

/-- The points of each place where a stem stands. -/
def placePoints : UInt32 := 10

/-- The points of a stem that stands somewhere at the start of a word. -/
def boundaryPoints : UInt32 := 20

/-- The points of a stem with which the text starts. -/
def startPoints : UInt32 := 15

/-- The points of a stem that only nearly stands in the text. -/
def nearPoints : UInt32 := 5

/-- The points of an entry of which something could not be told, if that is asked for. -/
def unknownPoints : UInt32 := 30

/-- Whether a word differs from a stem by at most one edit, both being long enough. -/
def isNear (s : Settings) (token word : List Char) : Bool :=
  s.fuzzyMinLength ≤ word.length &&
    (word.length - token.length) + (token.length - word.length) ≤ 2 && editDistance word token ≤ 1

/-- Whether some word of a text is near a stem, where that is allowed. -/
def hasNear (s : Settings) (text token : List Char) : Bool :=
  s.fuzzy && s.fuzzyMinLength ≤ token.length &&
    (text.splitOnP isSeparator).any (isNear s token)

/-- Whether a stem stands in a text, or nearly. -/
def matchesToken (s : Settings) (text token : List Char) : Bool :=
  Text.hasInfix token text || hasNear s text token

/-- Whether a text matches the terms. -/
def matchesTerms (s : Settings) (text : List Char) (t : SearchTerms) : Bool :=
  t.phrases.all (Text.hasInfix · text) && t.tokens.all (matchesToken s text)

/-- The characters in front of the places where a text stands, from left to right and without
    overlap; `none` is the start. The next `skip` characters belong to the last place. -/
def places (token : List Char) (before : Option Char) (skip : Nat) :
    List Char → List (Option Char)
  | [] => []
  | c :: cs =>
    match skip with
    | skip + 1 => places token (some c) skip cs
    | 0 =>
      if token.isPrefixOf (c :: cs) then before :: places token (some c) (token.length - 1) cs
      else places token (some c) 0 cs

/-- The points of a stem. -/
def tokenPoints (s : Settings) (text token : List Char) : UInt32 :=
  let found := places token none 0 text
  let count := UInt32.ofNat found.length
  if count = 0 then (if hasNear s text token then nearPoints else 0)
  else
    placePoints * count +
      (if found.any fun c => !c.any Text.isAlphanumeric then boundaryPoints else 0) +
      (if token.isPrefixOf text then startPoints else 0)

/-- The points of a phrase, if it stands in the text. -/
def phrasePointsIn (text phrase : List Char) : UInt32 :=
  if Text.hasInfix phrase text then phrasePoints else 0

/-- The points of a text. -/
def relevance (s : Settings) (text : List Char) (t : SearchTerms) : UInt32 :=
  t.tokens.foldl (fun points token => points + tokenPoints s text token)
    (t.phrases.foldl (fun points phrase => points + phrasePointsIn text phrase) 0)

/-- Whether something could not be told of an entry. -/
def Entry.isUnknown (e : Entry) : Bool :=
  e.level = .unknown || e.environment = .unknown

/-- An entry that free text found. -/
structure Hit where
  /-- The position of the entry. -/
  position : Nat
  /-- How well it matches. -/
  score : UInt32
  deriving DecidableEq, Inhabited

/-- The points of an entry, if it is found. -/
def score? (s : Settings) (t : SearchTerms) (e : Entry) : Option UInt32 :=
  let text := e.searchText
  let unknown := t.unknown && e.isUnknown
  let matched := t.hasTerms && matchesTerms s text t
  if unknown || matched then
    some ((if matched then relevance s text t else 0) + if unknown then unknownPoints else 0)
  else none

/-- The entries that free text finds, best first. -/
def search (s : Settings) (entries : Array Entry) (text : String) : List Hit :=
  let terms := SearchTerms.ofText text
  let positioned := entries.toList.zipIdx
  if terms.isEmpty then positioned.map fun (_, i) => ⟨i, 0⟩
  else
    (positioned.filterMap fun (e, i) => (score? s terms e).map (⟨i, ·⟩)).mergeSort
      fun a b => b.score ≤ a.score

end Logbook
