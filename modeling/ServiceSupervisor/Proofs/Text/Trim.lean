import Mathlib.Data.List.DropRight
import ServiceSupervisor.Text.Blank

/-!
  Proofs/Text/Trim.lean --- what trimming leaves of a text.

  Trimming takes the blanks at both ends and nothing else, so it is done after once, and
  blanks that are added at the ends make no difference to it.
-/

set_option autoImplicit false

namespace ServiceSupervisor.Text

theorem trimChars_eq (cs : List Char) :
    trimChars cs = (cs.dropWhile isBlank).rdropWhile isBlank := rfl

/-- What is trimmed does not begin with a blank any more. -/
theorem dropWhile_trimChars (cs : List Char) :
    (trimChars cs).dropWhile isBlank = trimChars cs := by
  rw [List.dropWhile_eq_self_iff]
  intro hpos
  have hprefix : trimChars cs <+: cs.dropWhile isBlank := by
    rw [trimChars_eq]
    exact List.rdropWhile_prefix isBlank _
  have hpos' : 0 < (cs.dropWhile isBlank).length :=
    Nat.lt_of_lt_of_le hpos hprefix.length_le
  -- trimming at the end keeps the first character if it keeps any
  have hhead : (trimChars cs)[0] = (cs.dropWhile isBlank)[0] := hprefix.getElem hpos
  rw [hhead]
  exact List.dropWhile_eq_self_iff.mp (List.dropWhile_idempotent isBlank cs) hpos'

theorem trimChars_trimChars (cs : List Char) : trimChars (trimChars cs) = trimChars cs := by
  rw [trimChars_eq (trimChars cs), dropWhile_trimChars, trimChars_eq]
  exact List.rdropWhile_idempotent isBlank _

theorem trim_trim (s : String) : trim (trim s) = trim s := by
  rw [trim, trim, String.toList_ofList, trimChars_trimChars]

theorem trimChars_blank_append {left : List Char} (h : ∀ c ∈ left, isBlank c = true)
    (cs : List Char) : trimChars (left ++ cs) = trimChars cs := by
  rw [trimChars_eq, List.dropWhile_append_of_pos h, ← trimChars_eq]

/-- Blanks behind a text are trimmed, also where the text is nothing but blanks itself. -/
theorem trimChars_append_blank {right : List Char} (h : ∀ c ∈ right, isBlank c = true)
    (cs : List Char) : trimChars (cs ++ right) = trimChars cs := by
  rw [trimChars, trimChars, List.dropWhile_append]
  split
  · next hblank =>
    rw [List.isEmpty_iff] at hblank
    have hright : right.dropWhile isBlank = [] := List.dropWhile_eq_nil_iff.mpr h
    rw [hblank, hright]
  · have hreverse : ∀ c ∈ right.reverse, isBlank c = true := fun c hc =>
      h c (List.mem_reverse.mp hc)
    rw [List.reverse_append, List.dropWhile_append_of_pos hreverse]

end ServiceSupervisor.Text
