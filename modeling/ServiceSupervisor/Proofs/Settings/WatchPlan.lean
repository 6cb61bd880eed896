import Mathlib.Data.List.Nodup
import ServiceSupervisor.Proofs.Text.Trim
import ServiceSupervisor.Settings.WatchPlan

/-!
  Proofs/Settings/WatchPlan.lean --- the names that a plan lists.

  Whatever was listed, a plan has each name once, trimmed and not blank; names that
  are like that already are listed as they are.
-/

set_option autoImplicit false

namespace ServiceSupervisor

/-! ## Names -/

namespace WatchPlan

/-- Names that a plan may list: each once, trimmed, and none blank. -/
structure Listable (names : List String) : Prop where
  nodup : names.Nodup
  trimmed : ∀ name ∈ names, Text.trim name = name
  nonblank : ∀ name ∈ names, name.isEmpty = false

variable {kept listed names : List String} {name : String} {poll initial : Duration}
  {plan : WatchPlan}

theorem listable_nil : Listable [] :=
  ⟨List.nodup_nil, by simp, by simp⟩

theorem Listable.snoc (h : Listable kept) {given : String} (hnew : Text.trim given ∉ kept)
    (hblank : (Text.trim given).isEmpty = false) : Listable (kept ++ [Text.trim given]) where
  nodup := by
    rw [← List.concat_eq_append]
    exact h.nodup.concat hnew
  trimmed := by
    intro name hname
    rcases List.mem_append.mp hname with hkept | hlast
    · exact h.trimmed name hkept
    · rw [List.mem_singleton.mp hlast]
      exact Text.trim_trim given
  nonblank := by
    intro name hname
    rcases List.mem_append.mp hname with hkept | hlast
    · exact h.nonblank name hkept
    · rw [List.mem_singleton.mp hlast]
      exact hblank

theorem Listable.singleton (h : Listable names) (hname : name ∈ names) : Listable [name] where
  nodup := List.nodup_singleton name
  trimmed := by simpa using h.trimmed name hname
  nonblank := by simpa using h.nonblank name hname

/-- However names are listed, those that are kept may be listed. -/
theorem listable_collect (h : Listable kept) (hcollect : (collect kept listed).value = .ok names) :
    Listable names := by
  induction listed generalizing kept with
  | nil =>
    cases hcollect
    exact h
  | cons given rest ih =>
    simp only [collect] at hcollect
    split at hcollect
    · cases hcollect
    · next hblank =>
      split at hcollect
      · exact ih h hcollect
      · next hnew => exact ih (h.snoc hnew (by simpa using hblank)) hcollect

/-- Names that may be listed are kept as they are. -/
theorem collect_of_listable (h : Listable (kept ++ names)) :
    collect kept names = pure (.ok (kept ++ names)) := by
  induction names generalizing kept with
  | nil => rw [collect, List.append_nil]
  | cons name rest ih =>
    have hmem : name ∈ kept ++ name :: rest := by simp
    have hnew : name ∉ kept := by
      intro hkept
      exact (List.nodup_append.mp h.nodup).2.2 name hkept name (by simp) rfl
    have hsplit : kept ++ name :: rest = kept ++ [name] ++ rest := by simp
    simp only [collect, h.trimmed name hmem, h.nonblank name hmem, hnew]
    rw [hsplit] at h ⊢
    exact ih h

/-- A plan is made of the names that are kept, if there are any, and of the times, if
the first is not zero. -/
theorem make_eq_ok_iff :
    (make listed poll initial).value = .ok plan ↔
      ∃ names, (collect [] listed).value = .ok names ∧ names ≠ [] ∧ poll.isZero = false ∧
        plan = ⟨names, poll, initial⟩ := by
  simp only [make, Logged.value_bind]
  constructor
  · intro h
    split at h
    · cases h
    · cases h
    · next names hsome hcollect =>
      split at h
      · cases h
      · next hpoll =>
        injection h with hplan
        exact ⟨names, hcollect, hsome, by simpa using hpoll, hplan.symm⟩
  · rintro ⟨names, hcollect, hsome, hpoll, rfl⟩
    rw [hcollect]
    cases names with
    | nil => exact absurd rfl hsome
    | cons name rest => simp [hpoll]

/-- A plan lists its names once. -/
theorem listable_make (h : (make listed poll initial).value = .ok plan) :
    Listable plan.services := by
  obtain ⟨names, hcollect, _, _, rfl⟩ := make_eq_ok_iff.mp h
  exact listable_collect listable_nil hcollect

/-- Names that may be listed make a plan with them, and nothing is warned of. -/
theorem make_of_listable (h : Listable names) (hnonempty : names ≠ [])
    (hpoll : poll.isZero = false) :
    make names poll initial = pure (.ok ⟨names, poll, initial⟩) := by
  have hcollect : collect [] names = pure (.ok names) := collect_of_listable h
  cases names with
  | nil => exact absurd rfl hnonempty
  | cons name rest =>
    simp only [make, hcollect, hpoll]
    rfl

/-- What a plan lists, with its times, makes the same plan, and nothing is warned of. -/
theorem make_services (h : (make listed poll initial).value = .ok plan) :
    make plan.services poll initial = pure (.ok plan) := by
  obtain ⟨names, _, hsome, hpoll, rfl⟩ := make_eq_ok_iff.mp h
  exact make_of_listable (listable_make h) hsome hpoll

end WatchPlan

end ServiceSupervisor
