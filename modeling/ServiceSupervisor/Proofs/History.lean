import Mathlib.Data.List.Induction

/-!
  Proofs/History.lean --- what happened in a run.

  A run is a sequence of acts, each a step from the state that those before have led to.
  Something has happened in it if at some moment the state and the act that came next
  were as described.
-/

set_option autoImplicit false

namespace ServiceSupervisor

variable {S A : Type} {step : S → A → S} {P : S → A → Prop} {s : S}

/-- At some moment of a run from a state, `P` was true of the state and the next act. -/
def Happened (step : S → A → S) (P : S → A → Prop) (s : S) (acts : List A) : Prop :=
  ∃ before a after, acts = before ++ a :: after ∧ P (before.foldl step s) a

theorem not_happened_nil : ¬ Happened step P s [] := by
  rintro ⟨before, a, after, hacts, -⟩
  exact List.append_ne_nil_of_right_ne_nil before (List.cons_ne_nil a after) hacts.symm

theorem happened_snoc (acts : List A) (x : A) :
    Happened step P s (acts ++ [x]) ↔ Happened step P s acts ∨ P (acts.foldl step s) x := by
  constructor
  · rintro ⟨before, a, after, hacts, ha⟩
    rcases List.eq_nil_or_concat after with rfl | ⟨after, y, rfl⟩
    · obtain ⟨rfl, hx⟩ := List.append_inj' hacts rfl
      rw [List.singleton_inj.mp hx]
      exact Or.inr ha
    · rw [List.concat_eq_append, ← List.cons_append, ← List.append_assoc] at hacts
      obtain ⟨rfl, -⟩ := List.append_inj' hacts rfl
      exact Or.inl ⟨before, a, after, rfl, ha⟩
  · rintro (⟨before, a, after, rfl, ha⟩ | hx)
    · exact ⟨before, a, after ++ [x], by simp, ha⟩
    · exact ⟨acts, x, [], rfl, hx⟩

/-- What becomes true just when something happens, and then stays true, tells whether it
has happened. -/
theorem iff_happened {Q : S → Prop} (hstart : ¬ Q s)
    (hstep : ∀ (before : List A) x, Q (step (before.foldl step s) x) ↔
      Q (before.foldl step s) ∨ P (before.foldl step s) x) (acts : List A) :
    Q (acts.foldl step s) ↔ Happened step P s acts := by
  induction acts using List.reverseRecOn with
  | nil => exact iff_of_false hstart not_happened_nil
  | append_singleton acts x ih =>
    rw [happened_snoc, ← ih, List.foldl_append]
    exact hstep acts x

end ServiceSupervisor
