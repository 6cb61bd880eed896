import Mathlib.Data.List.Induction
import ServiceSupervisor.Monitor.Pass

/-!
  Proofs/Monitor/Pass.lean --- what a pass over some services adds to a pass over fewer.

  A pass over the first services of a plan is the state in which a pass over all of
  them stands when it has visited these.
-/

set_option autoImplicit false

namespace ServiceSupervisor.Monitor

variable {σ : Type} (m : Manager σ)

/-- The service that a call queries, if it is a query. -/
def queried? : Call → Option String
  | .query name => some name
  | .start _ => none

@[simp] theorem calls_query (s : PassState σ) (name : String) :
    (query m s name).calls = s.calls ++ [.query name] := rfl

@[simp] theorem calls_start (s : PassState σ) (name : String) :
    (start m s name).calls = s.calls ++ [.start name] := rfl

theorem visit_of_asksStart {s : PassState σ} {name : String}
    (h : asksStart (m.query name s.host).1 = true) :
    visit m s name = start m (query m s name) name :=
  if_pos h

theorem visit_of_not_asksStart {s : PassState σ} {name : String}
    (h : asksStart (m.query name s.host).1 = false) : visit m s name = query m s name :=
  if_neg (by simp [h])

theorem pass_snoc (services : List String) (name : String) (host : σ) :
    pass m (services ++ [name]) host = visit m (pass m services host) name := by
  simp [pass]

/-- A visit queries its service, and then at most requests its start. -/
theorem calls_visit (s : PassState σ) (name : String) :
    (visit m s name).calls = s.calls ++ [.query name] ∨
      (visit m s name).calls = s.calls ++ [.query name, .start name] := by
  cases h : asksStart (m.query name s.host).1 with
  | true =>
    right
    rw [visit_of_asksStart m h]
    simp
  | false =>
    left
    rw [visit_of_not_asksStart m h]
    simp

theorem query_prefix_visit (s : PassState σ) (name : String) :
    s.calls ++ [.query name] <+: (visit m s name).calls := by
  rcases calls_visit m s name with h | h
  · exact h ▸ List.prefix_rfl
  · rw [h]
    exact ⟨[.start name], by simp⟩

theorem calls_prefix_foldl (s : PassState σ) (services : List String) :
    s.calls <+: (services.foldl (visit m) s).calls := by
  induction services generalizing s with
  | nil => exact List.prefix_rfl
  | cons name services ih =>
    exact ((List.prefix_append _ _).trans (query_prefix_visit m s name)).trans (ih _)

/-- A pass begins with what a pass over the first services calls. -/
theorem calls_prefix_pass (done todo : List String) (host : σ) :
    (pass m done host).calls <+: (pass m (done ++ todo) host).calls := by
  rw [pass, pass, List.foldl_append]
  exact calls_prefix_foldl m _ todo

/-- A pass that goes on with a service queries it next. -/
theorem query_prefix_pass (done todo : List String) (name : String) (host : σ) :
    (pass m done host).calls ++ [.query name] <+: (pass m (done ++ name :: todo) host).calls := by
  have h := calls_prefix_pass m (done ++ [name]) todo host
  rw [pass_snoc, List.append_assoc, List.singleton_append] at h
  exact (query_prefix_visit m _ name).trans h

/-- A pass that finds a service stopped requests its start next. -/
theorem start_prefix_pass (done todo : List String) (name : String) (host : σ)
    (h : asksStart (m.query name (pass m done host).host).1 = true) :
    (pass m done host).calls ++ [.query name] ++ [.start name] <+:
      (pass m (done ++ name :: todo) host).calls := by
  have hprefix := calls_prefix_pass m (done ++ [name]) todo host
  rw [pass_snoc, visit_of_asksStart m h, List.append_assoc, List.singleton_append] at hprefix
  exact hprefix

/-- A pass queries every service once, in order. -/
theorem queried_pass (services : List String) (host : σ) :
    (pass m services host).calls.filterMap queried? = services := by
  induction services using List.reverseRecOn with
  | nil => rfl
  | append_singleton services name ih =>
    rw [pass_snoc]
    rcases calls_visit m (pass m services host) name with h | h <;> simp [h, ih, queried?]

theorem queried_rounds (services : List String) (host : σ) (n : Nat) :
    (rounds m services host n).2.filterMap queried? = (List.replicate n services).flatten := by
  induction n with
  | zero => rfl
  | succ n ih =>
    have hcalls : (rounds m services host (n + 1)).2 =
        (rounds m services host n).2 ++ (pass m services (rounds m services host n).1).calls := rfl
    rw [hcalls, List.filterMap_append, ih, queried_pass, List.replicate_succ',
      List.flatten_append, List.flatten_singleton]

end ServiceSupervisor.Monitor
