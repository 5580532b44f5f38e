import Logbook.File
import Mathlib.Data.List.Basic

/-!
# Texts in bytes

A text is written in UTF-8 character by character (`Bytes.ofText`), and it is read back from these
bytes and from no others (`Bytes.text?_eq_some_iff`). The byte of the newline is written for that
character only (`Bytes.newline_mem_ofText`). So whether bytes write a text does not depend on
whether a newline stands after them (`Bytes.text?_append_newline`).
-/

namespace Logbook.Bytes

variable {bytes : Bytes} {c : Char} {cs : List Char} {s : String}

/-- The bytes in which a text is written. -/
def ofText (cs : List Char) : Bytes :=
  cs.flatMap String.utf8EncodeChar

theorem ofText_append (cs cs' : List Char) : ofText (cs ++ cs') = ofText cs ++ ofText cs' :=
  List.flatMap_append

theorem ofText_singleton (c : Char) : ofText [c] = String.utf8EncodeChar c :=
  List.flatMap_singleton ..

theorem ofText_newline : ofText ['\n'] = [newline] := by
  decide

/-! ## Reading back -/

theorem mk_ofText (cs : List Char) : ByteArray.mk (ofText cs).toArray = cs.utf8Encode := by
  rw [List.utf8Encode, ByteArray.ext_iff, List.data_toByteArray, ofText]

theorem isValidUTF8_iff : (ByteArray.mk bytes.toArray).IsValidUTF8 ↔ ∃ cs, bytes = ofText cs := by
  constructor
  · rintro ⟨cs, hcs⟩
    rw [← mk_ofText, ByteArray.ext_iff] at hcs
    exact ⟨cs, Array.toList_inj.2 hcs⟩
  · rintro ⟨cs, rfl⟩
    exact ⟨cs, mk_ofText cs⟩

theorem text?_eq_none_iff : bytes.text? = none ↔ ¬(ByteArray.mk bytes.toArray).IsValidUTF8 := by
  rw [text?, String.fromUTF8?]
  split
  next h => simp [h]
  next h => simp [h]

theorem text?_ofText (cs : List Char) : text? (ofText cs) = some (String.ofList cs) := by
  have hvalid : (ByteArray.mk (ofText cs).toArray).IsValidUTF8 := isValidUTF8_iff.2 ⟨cs, rfl⟩
  rw [text?, String.fromUTF8?, dif_pos hvalid, Option.some.injEq, ← String.toByteArray_inj,
    String.toByteArray_ofList]
  exact mk_ofText cs

theorem text?_eq_some_iff : bytes.text? = some s ↔ bytes = ofText s.toList := by
  constructor
  · intro h
    have hvalid : (ByteArray.mk bytes.toArray).IsValidUTF8 := by
      by_contra hnot
      rw [text?_eq_none_iff.2 hnot] at h
      cases h
    obtain ⟨cs, rfl⟩ := isValidUTF8_iff.1 hvalid
    rw [text?_ofText, Option.some.injEq] at h
    rw [← h, String.toList_ofList]
  · rintro rfl
    rw [text?_ofText, String.ofList_toList]

/-! ## Newlines -/

theorem newline_eq_ofNat_iff {n : Nat} : newline = UInt8.ofNat n ↔ n % 256 = 10 := by
  rw [← UInt8.toNat_inj, UInt8.toNat_ofNat', eq_comm]
  rfl

/-- All bytes of a character outside of ASCII lie above those of the characters in it. -/
theorem newline_mem_utf8EncodeChar : newline ∈ String.utf8EncodeChar c ↔ c = '\n' := by
  constructor
  · intro h
    have hval : c.val.toNat = 10 := by
      -- A character takes one to four bytes; if there are more than one, they are 128 at least.
      simp only [String.utf8EncodeChar] at h
      split_ifs at h
      all_goals simp only [List.mem_cons, List.not_mem_nil, or_false, newline_eq_ofNat_iff] at h
      all_goals omega
    exact Char.ext (UInt32.toNat_inj.1 hval)
  · rintro rfl
    decide

theorem newline_mem_ofText : newline ∈ ofText cs ↔ '\n' ∈ cs := by
  simp only [ofText, List.mem_flatMap, newline_mem_utf8EncodeChar, exists_eq_right]

/-- What ends with a newline and writes a text is the newline after what writes a text. -/
theorem exists_of_append_newline_eq_ofText (h : bytes ++ [newline] = ofText cs) :
    ∃ cs', bytes = ofText cs' := by
  rcases List.eq_nil_or_concat' cs with rfl | ⟨cs', c, rfl⟩
  · exact absurd h (List.append_ne_nil_of_right_ne_nil _ (List.cons_ne_nil _ _))
  · rw [ofText_append, ofText_singleton] at h
    -- The newline is the last byte of the last character, and so all of it.
    have hlast : (String.utf8EncodeChar c).getLast? = some newline := by
      have := congrArg List.getLast? h
      rwa [List.getLast?_concat, List.getLast?_append_of_ne_nil _ String.utf8EncodeChar_ne_nil,
        eq_comm] at this
    obtain rfl := newline_mem_utf8EncodeChar.1 (List.mem_of_getLast? hlast)
    rw [← ofText_singleton, ofText_newline] at h
    exact ⟨cs', List.append_cancel_right h⟩

/-- A newline after bytes does not stand inside of a character. -/
theorem text?_append_newline (bytes : Bytes) :
    text? (bytes ++ [newline]) = bytes.text?.map fun s => s.push '\n' := by
  cases h : bytes.text? with
  | some s =>
    rw [text?_eq_some_iff] at h
    subst h
    rw [← ofText_newline, ← ofText_append, text?_ofText, Option.map_some, Option.some.injEq,
      ← String.toList_inj, String.toList_ofList, String.toList_push]
  | none =>
    rw [Option.map_none, Option.eq_none_iff_forall_ne_some]
    intro s hs
    obtain ⟨cs, rfl⟩ := exists_of_append_newline_eq_ofText (text?_eq_some_iff.1 hs)
    rw [text?_ofText] at h
    cases h

end Logbook.Bytes
