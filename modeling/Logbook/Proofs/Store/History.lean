import Logbook.Proofs.Index.History
import Logbook.Store

/-!
# The history of a store

A store is only ever changed by commands (`Store.Command`). Every command leaves the entries that
there are where they are, and adds its own at the end (`Store.entries_perform`), and whatever the
commands were, the index is the one that is built anew of all entries (`Store.Consistent.perform`).
-/

namespace Logbook

/-- What a reader gives: bytes, and after them perhaps a fault instead of the end. -/
structure Delivery where
  /-- The bytes. -/
  bytes : Bytes
  /-- The fault with which the reader breaks off. -/
  fault : Option FileFault

namespace Delivery

/-- The lines that have been read to their ends. -/
def endedLines (d : Delivery) : List Bytes :=
  d.bytes.lines.filter fun line => line.getLast? = some Bytes.newline

/-- The entries that are read. A line that is no text is met before the fault. -/
def entries (d : Delivery) : Except FileFault (List Entry) :=
  match d.fault with
  | none => readEntries d.bytes
  | some fault =>
    match d.endedLines.mapM Bytes.text? with
    | none => .error .notText
    | some _ => .error fault

end Delivery

namespace Store

/-! ## Commands -/

/-- What can be done with a store. -/
inductive Command where
  /-- Add an entry. -/
  | push (e : Entry)
  /-- Add entries. -/
  | pushBatch (es : List Entry)
  /-- Add the entries that a reader gives. -/
  | ingest (d : Delivery)
  /-- Make the index anew. -/
  | rebuild
  /-- Respond to a typed text. -/
  | run (text : String)

/-- What is told after a command. -/
inductive Reply where
  /-- The position of an entry. -/
  | position (i : Nat)
  /-- The positions of entries, from the first one to before the last one. -/
  | range (first last : Nat)
  /-- The number of entries that were added. -/
  | count (n : Nat)
  /-- Why no entries were added. -/
  | fault (f : FileFault)
  /-- Nothing. -/
  | done
  /-- The response to a typed text. -/
  | response (r : Response)

/-- The store after a command, and what is told. -/
def perform (s : Store) : Command → Reply × Store
  | .push e => (.position s.size, s.push e)
  | .pushBatch es => (.range s.size (s.size + es.length), s.pushBatch es)
  | .ingest d =>
    match d.entries with
    | .ok es => (.count es.length, s.pushBatch es)
    | .error f => (.fault f, s)
  | .rebuild => (.done, s.rebuild)
  | .run text => (.response (s.run text), s)

/-- The store after commands. -/
def after (s : Store) (commands : List Command) : Store :=
  commands.foldl (fun s c => (s.perform c).2) s

/-- The entries that a command adds. -/
def Command.added : Command → List Entry
  | .push e => [e]
  | .pushBatch es => es
  | .ingest d =>
    match d.entries with
    | .ok es => es
    | .error _ => []
  | .rebuild | .run _ => []

variable {s : Store} {commands : List Command} {c : Command}

/-- A reader that comes to its end is a file that is taken in. -/
theorem perform_ingest_bytes (s : Store) (bytes : Bytes) :
    s.ingest bytes = match s.perform (.ingest ⟨bytes, none⟩) with
      | (.fault f, _) => .error f
      | (_, s) => .ok s := by
  simp only [perform, Delivery.entries, ingest]
  cases readEntries bytes <;> rfl

/-! ## Steps -/

/-- The index is the one that is built anew. -/
def Consistent (s : Store) : Prop :=
  s.index = (Index.empty s.settings).build s.entries.toList

theorem consistent_empty (settings : Settings) : (empty settings).Consistent :=
  (Index.build_empty settings).symm

/-- The entries are added at the position after the last one, as far as the index goes as well. -/
theorem Consistent.pushBatch (hs : s.Consistent) (es : List Entry) :
    (s.pushBatch es).Consistent := by
  have htoList : (s.entries ++ es).toList = s.entries.toList ++ es := Array.toList_appendList
  rw [Consistent, Store.pushBatch, htoList, ← Index.addBatch_build, ← hs, Array.length_toList, size]

theorem Consistent.push (hs : s.Consistent) (e : Entry) : (s.push e).Consistent := by
  rw [Consistent, Store.push, Array.toList_push, ← Index.add_build, ← hs, Array.length_toList, size]

theorem Consistent.rebuild_eq (hs : s.Consistent) : s.rebuild = s := by
  rw [rebuild, ← hs]

theorem settings_perform : (s.perform c).2.settings = s.settings := by
  cases c with
  | ingest d => simp only [perform]; split <;> rfl
  | _ => rfl

theorem entries_perform : (s.perform c).2.entries.toList = s.entries.toList ++ c.added := by
  cases c with
  | push e => exact Array.toList_push
  | pushBatch es => exact Array.toList_appendList
  | ingest d =>
    simp only [perform, Command.added]
    split
    next => exact Array.toList_appendList
    next => exact (List.append_nil _).symm
  | rebuild => exact (List.append_nil _).symm
  | run text => exact (List.append_nil _).symm

theorem Consistent.perform (hs : s.Consistent) (c : Command) : (s.perform c).2.Consistent := by
  cases c with
  | push e => exact hs.push e
  | pushBatch es => exact hs.pushBatch es
  | ingest d =>
    simp only [Store.perform]
    split
    next es _ => exact hs.pushBatch es
    next => exact hs
  -- Nothing is changed by making anew what is the same as before.
  | rebuild => exact (hs.rebuild_eq.symm ▸ hs : s.rebuild.Consistent)
  | run text => exact hs

/-! ## Runs -/

theorem settings_after : (s.after commands).settings = s.settings := by
  induction commands generalizing s with
  | nil => rfl
  | cons c commands ih => exact ih.trans settings_perform

theorem entries_after :
    (s.after commands).entries.toList = s.entries.toList ++ commands.flatMap Command.added := by
  induction commands generalizing s with
  | nil => exact (List.append_nil _).symm
  | cons c commands ih =>
    rw [List.flatMap_cons, ← List.append_assoc, ← entries_perform]
    exact ih

theorem Consistent.after (hs : s.Consistent) (commands : List Command) :
    (s.after commands).Consistent := by
  induction commands generalizing s with
  | nil => exact hs
  | cons c commands ih => exact ih (hs.perform c)

theorem get?_eq (i : Nat) : s.get? i = s.entries.toList[i]? :=
  Array.getElem?_toList.symm

/-- An entry keeps its position. -/
theorem get?_after {i : Nat} (h : i < s.size) : (s.after commands).get? i = s.get? i := by
  rw [get?_eq, get?_eq, entries_after, List.getElem?_append_left h]

/-- The entries that a command adds stand from the former end on. -/
theorem get?_after_cons {k : Nat} (h : k < c.added.length) :
    (s.after (c :: commands)).get? (s.size + k) = c.added[k]? := by
  have hsize : s.size = s.entries.toList.length := Array.length_toList.symm
  rw [get?_eq, entries_after, List.flatMap_cons, hsize,
    List.getElem?_append_right (Nat.le_add_right _ _), Nat.add_sub_cancel_left,
    List.getElem?_append_left h]

theorem Consistent.fresh_source (hs : s.Consistent) : s.source.fresh = s.source := by
  have htotal : s.index.total = s.entries.size := by
    rw [hs, Index.total_build, Array.length_toList]
  simp [source, Source.fresh, htotal]

/-- Whatever was done with a store that was empty at first: it holds what was added, in order, and
    the index of it, which is never out of date; an entry stays at the position that was told; and
    what cannot be read changes nothing. -/
theorem after_empty (settings : Settings) (commands : List Command) :
    let s := (empty settings).after commands
    s.entries.toList = commands.flatMap Command.added ∧
    s.index = (Index.empty settings).build (commands.flatMap Command.added) ∧
    s.rebuild = s ∧
    s.source.fresh = s.source ∧
    (∀ more i e, s.get? i = some e → (s.after more).get? i = some e) ∧
    (∀ more e, (s.perform (.push e)).1 = .position s.size ∧
      (s.after (.push e :: more)).get? s.size = some e) ∧
    (∀ more es, (s.perform (.pushBatch es)).1 = .range s.size (s.size + es.length) ∧
      ∀ k < es.length, (s.after (.pushBatch es :: more)).get? (s.size + k) = es[k]?) ∧
    ∀ d f, d.entries = .error f → s.perform (.ingest d) = (.fault f, s) := by
  intro s
  have hs : s.Consistent := (consistent_empty settings).after commands
  have hentries : s.entries.toList = commands.flatMap Command.added :=
    entries_after.trans (List.nil_append _)
  have hsettings : s.settings = settings := settings_after
  refine ⟨hentries, ?_, hs.rebuild_eq, hs.fresh_source, fun more i e h => ?_, fun more e => ?_,
    fun more es => ?_, fun d f h => ?_⟩
  · rw [hs, hentries, hsettings]
  · rw [get?_after (Array.getElem?_eq_some_iff.1 h).1, h]
  · exact ⟨rfl, get?_after_cons (c := .push e) Nat.one_pos⟩
  · exact ⟨rfl, fun k hk => get?_after_cons hk⟩
  · rw [perform, h]

/-- Bytes that are no text, after an entry and before another one. -/
theorem after_empty_fault :
    let a : Entry := .text "up"
    let b : Entry := .text "down"
    let bad : Delivery := ⟨[0x6F, 0x6B, 0x0A, 0xFF], none⟩
    let s := (empty {}).after [.push a]
    s.get? 0 = some a ∧ (s.after [.ingest bad, .pushBatch [b]]).get? 0 = some a ∧
      0 < [b].length ∧ (s.after [.pushBatch [b], .ingest bad]).get? 1 = some b ∧
      bad.entries = .error .notText ∧ s.perform (.ingest bad) = (.fault .notText, s) := by
  intro a b bad s
  obtain ⟨-, -, -, -, hkept, -, hbatch, hfault⟩ := after_empty {} [.push a]
  have hget : s.get? 0 = some a := rfl
  have hlength : 0 < [b].length := Nat.one_pos
  have hbad : bad.entries = .error .notText := by rfl
  exact ⟨hget, hkept [.ingest bad, .pushBatch [b]] 0 a hget, hlength,
    (hbatch [.ingest bad] [b]).2 0 hlength, hbad, hfault bad .notText hbad⟩

end Store

end Logbook
