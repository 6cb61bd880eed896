import ServiceSupervisor.Settings.OwnName

/-!
  Proofs/Settings/OwnName.lean --- what no name of a supervisor is, and what none holds.
-/

set_option autoImplicit false

namespace ServiceSupervisor.OwnName

variable {name other : OwnName}

theorem text_ne_empty (name : OwnName) : name.text ≠ "" := by
  intro hempty
  have hvisible := name.visible
  rw [hempty] at hvisible
  cases hvisible

theorem exists_toList_eq_cons (name : OwnName) : ∃ c rest, name.text.toList = c :: rest :=
  List.exists_cons_of_ne_nil (by simpa using name.text_ne_empty)

theorem not_mem_text {c : Char} (h : isPathSeparator c = true) (name : OwnName) :
    c ∉ name.text.toList :=
  fun hmem => List.any_eq_false.mp name.plain c hmem h

theorem slash_not_mem_text (name : OwnName) : '/' ∉ name.text.toList := name.not_mem_text rfl

theorem nul_not_mem_text (name : OwnName) : '\x00' ∉ name.text.toList := name.not_mem_text rfl

/-- Names are told apart by their texts. -/
theorem eq_of_text_eq (h : name.text = other.text) : name = other := by
  cases name
  cases other
  cases h
  rfl

end ServiceSupervisor.OwnName
