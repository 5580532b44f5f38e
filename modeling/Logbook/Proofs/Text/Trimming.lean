import Logbook.Text.Blank

/-!
# Blanks around a text

Taking the blanks away from around a text leaves a part of it (`trim_infix`), which is the whole of
it if there is no blank at either end (`trim_eq_self`), and holds whatever is not a blank
(`mem_trim_of_not_isBlank`).
-/

namespace Logbook.Text

variable {p : Char → Bool} {c : Char} {cs : List Char}

theorem stripEnd_isPrefix (p : Char → Bool) (cs : List Char) : stripEnd p cs <+: cs := by
  rw [stripEnd, ← List.reverse_suffix, List.reverse_reverse]
  exact List.dropWhile_suffix p

theorem trim_infix (cs : List Char) : trim cs <:+: cs :=
  (stripEnd_isPrefix isBlank _).isInfix.trans (List.dropWhile_suffix isBlank).isInfix

theorem dropWhile_eq_self (h : ∀ c ∈ cs.head?, ¬p c) : cs.dropWhile p = cs := by
  cases cs with
  | nil => rfl
  | cons c cs => exact List.dropWhile_cons_of_neg (h c rfl)

theorem strip_eq_self (hfirst : ∀ c ∈ cs.head?, ¬p c) (hlast : ∀ c ∈ cs.getLast?, ¬p c) :
    strip p cs = cs := by
  rw [strip, dropWhile_eq_self hfirst, stripEnd,
    dropWhile_eq_self fun c hc => hlast c (List.head?_reverse ▸ hc), List.reverse_reverse]

theorem strip_of_forall_not (h : ∀ c ∈ cs, ¬p c) : strip p cs = cs :=
  strip_eq_self (fun c hc => h c (List.mem_of_mem_head? hc))
    fun c hc => h c (List.mem_of_mem_getLast? hc)

theorem trim_eq_self (hfirst : ∀ c ∈ cs.head?, ¬isBlank c) (hlast : ∀ c ∈ cs.getLast?, ¬isBlank c) :
    trim cs = cs :=
  strip_eq_self hfirst hlast

theorem trim_of_forall_not (h : ∀ c ∈ cs, ¬isBlank c) : trim cs = cs :=
  strip_of_forall_not h

theorem mem_dropWhile_of_not (hc : ¬p c) (h : c ∈ cs) : c ∈ cs.dropWhile p := by
  rw [← @List.takeWhile_append_dropWhile _ p cs, List.mem_append] at h
  exact h.resolve_left fun hmem => hc (List.all_eq_true.1 List.all_takeWhile c hmem)

theorem mem_trim_of_not_isBlank (hc : ¬isBlank c) (h : c ∈ cs) : c ∈ trim cs := by
  rw [trim, strip, stripEnd, List.mem_reverse]
  exact mem_dropWhile_of_not hc (List.mem_reverse.2 (mem_dropWhile_of_not hc h))

/-- What stands in front of something that stays is not touched. -/
theorem stripEnd_append_of_mem {back : List Char} (hc : ¬p c) (h : c ∈ back) (front : List Char) :
    stripEnd p (front ++ back) = front ++ stripEnd p back := by
  have hne : (back.reverse.dropWhile p).isEmpty = false :=
    List.isEmpty_eq_false_iff.2
      (List.ne_nil_of_mem (mem_dropWhile_of_not hc (List.mem_reverse.2 h)))
  rw [stripEnd, stripEnd, List.reverse_append, List.dropWhile_append, hne, if_neg (by decide),
    List.reverse_append, List.reverse_reverse]

end Logbook.Text
