import ServiceSupervisor.Text.Split

/-!
  Proofs/Text/Split.lean --- the parts of a sequence that was put together from them.
-/

set_option autoImplicit false

namespace ServiceSupervisor.Text

variable {α : Type} [DecidableEq α] {sep : α} {part : List α}

/-- At a separator the parts before and behind it are cut on their own. -/
theorem split_append_sep (sep : α) (xs rest : List α) :
    split sep (xs ++ sep :: rest) = split sep xs ++ split sep rest := by
  induction xs with
  | nil => simp [split]
  | cons x xs ih =>
    rw [List.cons_append, split, split, ih]
    split
    · rfl
    · cases hparts : split sep xs with
      | nil => exact absurd hparts (split_ne_nil sep xs)
      | cons part parts => rfl

/-- What holds no separator is one part. -/
theorem split_of_not_mem (h : sep ∉ part) : split sep part = [part] := by
  induction part with
  | nil => rfl
  | cons x part ih =>
    rw [List.mem_cons, not_or] at h
    rw [split, if_neg (Ne.symm h.1), ih h.2]

/-- A part reaches up to the first separator. -/
theorem split_append_cons (h : sep ∉ part) (rest : List α) :
    split sep (part ++ sep :: rest) = part :: split sep rest := by
  rw [split_append_sep, split_of_not_mem h, List.singleton_append]

/-- No part holds a separator. -/
theorem not_mem_of_mem_split {xs : List α} (h : part ∈ split sep xs) : sep ∉ part := by
  induction xs generalizing part with
  | nil =>
    rw [split, List.mem_singleton] at h
    simp [h]
  | cons x xs ih =>
    rw [split] at h
    split at h
    · rcases List.mem_cons.mp h with rfl | h
      · exact List.not_mem_nil
      · exact ih h
    · next hx =>
      cases hrest : split sep xs with
      | nil => exact absurd hrest (split_ne_nil sep xs)
      | cons first parts =>
        rw [hrest] at h ih
        rcases List.mem_cons.mp h with rfl | h
        · have hfirst : sep ∉ first := ih List.mem_cons_self
          simp [hfirst, Ne.symm hx]
        · exact ih (List.mem_cons_of_mem _ h)

/-- Parts that are each closed by a separator come back, and what is behind them is cut
on its own. -/
theorem split_flatMap_append {parts : List (List α)} (h : ∀ part ∈ parts, sep ∉ part)
    (rest : List α) :
    split sep (parts.flatMap (· ++ [sep]) ++ rest) = parts ++ split sep rest := by
  induction parts with
  | nil => rfl
  | cons part parts ih =>
    rw [List.flatMap_cons, List.append_assoc, List.append_assoc, List.singleton_append,
      split_append_cons (h part List.mem_cons_self),
      ih fun p hp => h p (List.mem_cons_of_mem _ hp), List.cons_append]

/-- Parts that are each read back are read back together. -/
theorem mapM_map_eq_some {β γ : Type} {write : β → γ} {read : γ → Option β} {parts : List β}
    (h : ∀ part ∈ parts, read (write part) = some part) :
    (parts.map write).mapM read = some parts := by
  induction parts with
  | nil => rfl
  | cons part parts ih =>
    rw [List.map_cons, List.mapM_cons, h part List.mem_cons_self,
      ih fun p hp => h p (List.mem_cons_of_mem _ hp)]
    rfl

/-- Only something missing among them keeps values from being gathered. -/
theorem mapM_id_eq_none_iff {β : Type} {parts : List (Option β)} :
    parts.mapM id = none ↔ none ∈ parts := by
  induction parts with
  | nil => simp
  | cons part parts ih =>
    cases part with
    | none => simp [List.mapM_cons]
    | some b =>
      rw [List.mapM_cons, List.mem_cons]
      cases hrest : parts.mapM id with
      | none => simp [ih.mp hrest]
      | some bs =>
        have hmem : none ∉ parts := mt ih.mpr (by simp [hrest])
        simp [hmem]

end ServiceSupervisor.Text
