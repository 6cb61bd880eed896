import Mathlib.Data.List.TakeWhile
import ServiceSupervisor.Proofs.Registry.Snapshot
import ServiceSupervisor.Proofs.Settings.OwnName

/-!
  Proofs/Registry/Reader.lean --- reading a registry that holds still.

  A value that does not change is read whole, and reading it changes neither its own
  later answers nor those of any other.
-/

set_option autoImplicit false

namespace ServiceSupervisor.Registry

/-- A value that is there, and stays as it is. -/
structure Answers.Always (as : Answers) (d : Data) : Prop where
  ne_nil : as ≠ []
  eq_holds : ∀ a ∈ as, a = .holds d

variable {as : Answers} {d : Data} {buffer : List UInt8} {o : Outcome}

theorem Answers.Always.next (h : as.Always d) : as.next.1 = .holds d ∧ as.next.2.Always d := by
  match as, h with
  | [], h => exact absurd rfl h.ne_nil
  | [a], h => exact ⟨h.eq_holds a List.mem_cons_self, h⟩
  | a :: a' :: rest, h =>
    refine ⟨h.eq_holds a List.mem_cons_self, List.cons_ne_nil a' rest, ?_⟩
    exact fun b hb => h.eq_holds b (List.mem_cons_of_mem a hb)

theorem Answers.Always.regular (h : as.Always d) : ∀ a ∈ as, a.Regular := by
  intro a ha
  rw [h.eq_holds a ha]
  trivial

theorem Answers.Always.nth_eq (h : as.Always d) (i : Nat) : as.nth i = .holds d := by
  induction i generalizing as with
  | zero => exact (as.nth_zero).trans h.next.1
  | succ i ih => exact (as.nth_succ i).trans (ih h.next.2)

theorem Asks.always_left (hasks : Asks buffer as o) (h : as.Always d) : o.left.Always d := by
  induction hasks with
  | again _ _ ih => exact ih h.next.2
  | settles _ => exact h.next.2

/-- Whichever call is the last, its answer is the value. -/
theorem Answers.Always.readData (h : as.Always d) :
    (readData as).result = .ok d ∧ (readData as).left.Always d := by
  have hasks : Asks [] as (Registry.readData as) := asks_ask h.regular []
  refine ⟨?_, hasks.always_left h⟩
  rw [(hasks.consistent h.regular).result_eq, h.nth_eq]
  rfl

namespace Hive

variable {r : Hive} {key value key' value' : String}

/-- Keeping answers for one value changes what is kept for it, if anything is, and leaves
the others alone. -/
theorem find?_put : (r.put key value as).values.find? (fun v => v.1 = (key', value')) =
    (r.values.find? fun v => v.1 = (key', value')).map fun v =>
      if v.1 = (key, value) then (v.1, as) else v := by
  rw [put, List.find?_map]
  congr 2
  funext v
  by_cases hv : v.1 = (key, value) <;> simp [hv]

theorem answers_put_of_ne (h : (key', value') ≠ (key, value)) :
    (r.put key value as).answers key' value' = r.answers key' value' := by
  rw [answers, answers, find?_put]
  cases hfind : r.values.find? fun v => v.1 = (key', value') with
  | none => rfl
  | some v =>
    have hv : v.1 = (key', value') := by simpa using List.find?_some hfind
    simp [hv, h]

theorem answers_put_self (h : r.answers key value ≠ []) :
    (r.put key value as).answers key value = as := by
  rw [answers] at h ⊢
  rw [find?_put]
  cases hfind : r.values.find? fun v => v.1 = (key, value) with
  | none => simp [hfind] at h
  | some v =>
    have hv : v.1 = (key, value) := by simpa using List.find?_some hfind
    simp [hv]

end Hive

/-! ## Names without NUL -/

theorem nul_not_mem_parametersKey (owner : OwnName) : '\x00' ∉ (parametersKey owner).toList := by
  have hroot : '\x00' ∉ "SYSTEM\\CurrentControlSet\\Services\\".toList := by decide
  have hleaf : '\x00' ∉ "\\Parameters".toList := by decide
  unfold parametersKey
  simp only [String.toList_append, List.mem_append, not_or]
  exact ⟨⟨hroot, owner.nul_not_mem_text⟩, hleaf⟩

theorem untilNul_eq_self_iff {name : String} : untilNul name = name ↔ '\x00' ∉ name.toList := by
  rw [← String.toList_inj, untilNul, String.toList_ofList, List.takeWhile_eq_self_iff]
  constructor
  · intro h hmem
    exact absurd (h '\x00' hmem) (by decide)
  · intro h c hc
    simpa using fun heq : c = '\x00' => h (heq ▸ hc)

theorem untilNul_of_not_mem {name : String} (h : '\x00' ∉ name.toList) : untilNul name = name :=
  untilNul_eq_self_iff.mpr h

/-- A value that holds still is read, and what held still before does so after. -/
theorem read_of_always {r : Hive} {key name : String} (hkey : '\x00' ∉ key.toList)
    (hname : '\x00' ∉ name.toList) (h : (r.answers key name).Always d) :
    ∃ r', ((source key).read name).run r = (.ok (some d.decode), r') ∧
      ∀ {name' d'}, (r.answers key name').Always d' → (r'.answers key name').Always d' := by
  have hread := run_read r key name (a := .holds d)
  rw [untilNul_of_not_mem hkey, untilNul_of_not_mem hname] at hread
  refine ⟨_, hread h.readData.1, ?_⟩
  intro name' d' h'
  change ((r.put key name _).answers key name').Always d'
  by_cases hsame : name' = name
  · subst hsame
    rw [Hive.answers_put_self h.ne_nil]
    exact h'.readData.2
  · rw [Hive.answers_put_of_ne (by simpa using hsame)]
    exact h'

end ServiceSupervisor.Registry
