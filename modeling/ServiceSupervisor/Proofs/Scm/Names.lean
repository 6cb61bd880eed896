import Mathlib.Logic.Function.Basic
import ServiceSupervisor.Proofs.Monitor.Dialogue
import ServiceSupervisor.Proofs.Registry.Reader
import ServiceSupervisor.Proofs.Scm.Handles
import ServiceSupervisor.Proofs.Text.Utf16

/-!
  Proofs/Scm/Names.lean --- the names under which watched services are asked about.

  A function reads a name up to its first NUL.  A name that has none is read as it is; two
  names that differ only behind one are the same to the service control manager, which is
  then asked to start one service twice.
-/

set_option autoImplicit false

namespace ServiceSupervisor

/-! ## What is read of a name -/

namespace Text.Utf16

/-- The units before the first zero are those of the characters before the first NUL. -/
theorem takeWhile_flatMap_encodeChar (cs : List Char) :
    (cs.flatMap encodeChar ++ [0]).takeWhile (· ≠ 0) =
      (cs.takeWhile (· ≠ '\x00')).flatMap encodeChar := by
  induction cs with
  | nil => rfl
  | cons c cs ih =>
    rw [List.flatMap_cons, List.append_assoc]
    by_cases hc : c = '\x00'
    · subst hc
      rfl
    · have hunits : ∀ u ∈ encodeChar c, decide (u ≠ 0) = true := by
        intro u hu
        have hzero : u ≠ 0 := fun heq => hc (zero_mem_encodeChar_iff.mp (heq ▸ hu))
        simpa using hzero
      rw [List.takeWhile_append_of_pos hunits, ih, List.takeWhile_cons_of_pos (by simpa using hc),
        List.flatMap_cons]

end Text.Utf16

namespace Scm

open Session Monitor

theorem seen_eq_untilNul (s : String) : seen s = Registry.untilNul s := by
  have hunits : (wide s).takeWhile (· ≠ 0) = Text.Utf16.encode (Registry.untilNul s) := by
    rw [wide, Text.Utf16.encode, Text.Utf16.takeWhile_flatMap_encodeChar, Text.Utf16.encode,
      Registry.untilNul, String.toList_ofList]
  rw [seen, readWide, hunits, Text.Utf16.decode?_encode, Option.getD_some]

/-! ## The services that are opened and started -/

/-- The service that a call opens, by the name that the function reads. -/
def ApiCall.service? : ApiCall → Option String
  | openService _ name _ => some name
  | _ => none

/-- The handle of the service that a call starts. -/
def ApiCall.started? : ApiCall → Option Nat
  | startService handle => some handle
  | _ => none

/-- The names of the services whose handles were given out, after one more exchange. -/
def Exchange.named (names : Nat → Option String) (x : Exchange) : Nat → Option String :=
  match x.call.service?, x.handle? with
  | some name, some handle => Function.update names handle (some name)
  | _, _ => names

/-- The exchanges that calls come to when they are made one after the other. -/
def Interface.exchanges (i : Interface) : List ApiCall → List Exchange
  | [] => []
  | c :: cs => (i.meet c).1 :: (i.meet c).2.exchanges cs

/-- The services that were requested to start, in order, each by the name under which its
handle was opened. -/
def startsOf (names : Nat → Option String) : List Exchange → List String
  | [] => []
  | x :: xs => (x.call.started?.bind names).toList ++ startsOf (x.named names) xs

section Exchanges

open Exchange (withoutClosings)

variable {i i' : Interface} {xs : List Exchange} {name : String}

theorem startsOf_append (names : Nat → Option String) (xs ys : List Exchange) :
    startsOf names (xs ++ ys) =
      startsOf names xs ++ startsOf (xs.foldl Exchange.named names) ys := by
  induction xs generalizing names with
  | nil => rfl
  | cons x xs ih =>
    rw [List.cons_append, startsOf, startsOf, ih, List.append_assoc]
    rfl

/-- A call that closes a handle neither opens a service nor starts one. -/
theorem eq_none_of_closes? {c : ApiCall} (h : c.closes?.isSome) :
    c.service? = none ∧ c.started? = none := by
  cases c <;> first | exact ⟨rfl, rfl⟩ | cases h

theorem startsOf_withoutClosings (names : Nat → Option String) (xs : List Exchange) :
    startsOf names (withoutClosings xs) = startsOf names xs := by
  induction xs generalizing names with
  | nil => rfl
  | cons x xs ih =>
    cases hx : x.closes? with
    | none => rw [withoutClosings_cons hx, startsOf, startsOf, ih]
    | some handle =>
      have hx' : x.call.closes? = some handle := hx
      obtain ⟨hservice, hstarted⟩ := eq_none_of_closes? (c := x.call) (by simp [hx'])
      have hnamed : x.named names = names := by rw [Exchange.named, hservice]
      rw [withoutClosings, List.filter_cons_of_neg (by simp [hx]), startsOf, hstarted, hnamed]
      exact ih names

theorem startsOf_query {outcome : Except Failure Status} (h : Follows (.query name) xs outcome)
    (names : Nat → Option String) : startsOf names xs = [] := by
  obtain _ | _ | h := h
  · rfl
  obtain _ | _ | h := h
  · rfl
  obtain _ | _ | h := h
  · rfl
  cases h
  rfl

theorem startsOf_start {outcome : Except Failure Unit} (h : Follows (.start name) xs outcome)
    (names : Nat → Option String) : (startsOf names xs).Sublist [seen name] := by
  -- whether it is accepted or not, the request goes to the service that was opened
  have hrequest : ∀ manager service result, startsOf names
      [⟨.openManager 0x1, .ok manager⟩, ⟨.openService manager (seen name) 0x10, .ok service⟩,
        ⟨.startService service, result⟩] = [seen name] := by
    intro manager service result
    simp [startsOf, Exchange.named, ApiCall.service?, ApiCall.started?, Exchange.handle?,
      ApiCall.closing?, Except.toOption]
  obtain _ | _ | h := h
  · exact List.nil_sublist _
  obtain _ | _ | h := h
  · exact List.nil_sublist _
  obtain _ | _ | h := h
  · rw [hrequest]
  cases h
  rw [hrequest]

/-- The exchanges of a use are told from its calls. -/
theorem Trace.eq_exchanges (h : Trace i xs i') : xs = i.exchanges (xs.map (·.call)) := by
  induction h with
  | nil => rfl
  | @cons i i' i'' c x xs hmeet _ ih =>
    obtain ⟨result, after, hmeet'⟩ := exists_meet i c
    cases hmeet.symm.trans hmeet'
    rw [List.map_cons, Interface.exchanges, hmeet, ← ih]

/-- Of the services that a manager was told to start, some were requested to, each by the name
that is read. -/
theorem exists_trace_after (calls : List Call) (i : Interface) :
    ∃ xs, Trace i xs (manager.after i calls) ∧ ∀ names,
      (startsOf names xs).Sublist ((calls.filterMap Call.started?).map seen) := by
  induction calls generalizing i with
  | nil => exact ⟨[], .nil i i.log, fun _ => List.nil_sublist _⟩
  | cons call calls ih =>
    obtain ⟨ys, hys, hstarts⟩ := ih (manager.ask i call).2
    cases call with
    | query name =>
      obtain ⟨_, ⟨xs, hxs, -, hfollows, -⟩, -⟩ := (goesBy_query name).conducted i
      refine ⟨xs ++ ys, hxs.append hys, fun names => ?_⟩
      rw [startsOf_append, ← startsOf_withoutClosings names xs, startsOf_query hfollows]
      exact hstarts _
    | start name =>
      obtain ⟨_, ⟨xs, hxs, -, hfollows, -⟩, -⟩ := (goesBy_start name).conducted i
      refine ⟨xs ++ ys, hxs.append hys, fun names => ?_⟩
      rw [startsOf_append, ← startsOf_withoutClosings names xs]
      exact (startsOf_start hfollows names).append (hstarts _)

end Exchanges

/-! ## The main statement -/

/-- Which services the service control manager is asked about for the services of a plan. -/
structure Addresses (services : List String) : Prop where
  /-- a query or a start opens the service that is named by what comes before a NUL -/
  query : ∀ name ∈ services, ∀ i,
    Makes ApiCall.service? 0x1 (Registry.untilNul name) i (query name i).2
  start : ∀ name ∈ services, ∀ i,
    Makes ApiCall.service? 0x1 (Registry.untilNul name) i (start name i).2
  /-- that is the service itself just if its name has none, -/
  own_iff : ∀ name ∈ services, Registry.untilNul name = name ↔ '\x00' ∉ name.toList
  /-- so services are told apart if no name has one -/
  apart : (∀ name ∈ services, '\x00' ∉ name.toList) → (services.map Registry.untilNul).Nodup
  /-- a pass requests starts in the order of the services, by the names that are read -/
  starts : ∀ i, ∃ new, (pass manager services i).host.calls = i.calls ++ new ∧
    (startsOf (fun _ => none) (i.exchanges new)).Sublist (services.map Registry.untilNul)
  /-- so it requests none twice if they are told apart -/
  once : (services.map Registry.untilNul).Nodup → ∀ i new,
    (pass manager services i).host.calls = i.calls ++ new →
      (startsOf (fun _ => none) (i.exchanges new)).Nodup

theorem makes_query (name : String) (i : Interface) :
    Makes ApiCall.service? 0x1 (Registry.untilNul name) i (query name i).2 := by
  obtain ⟨_, hconducted, -⟩ := (goesBy_query name).conducted i
  rw [← seen_eq_untilNul]
  exact makes_of_conducted hconducted (fun _ h => (eq_none_of_closes? h).1) rfl (fun _ => rfl)
    fun h => filterMap_last h rfl

theorem makes_start (name : String) (i : Interface) :
    Makes ApiCall.service? 0x1 (Registry.untilNul name) i (start name i).2 := by
  obtain ⟨_, hconducted, -⟩ := (goesBy_start name).conducted i
  rw [← seen_eq_untilNul]
  exact makes_of_conducted hconducted (fun _ h => (eq_none_of_closes? h).1) rfl (fun _ => rfl)
    fun h => filterMap_last h rfl

theorem exists_startsOf_pass (services : List String) (i : Interface) :
    ∃ new, (pass manager services i).host.calls = i.calls ++ new ∧
      (startsOf (fun _ => none) (i.exchanges new)).Sublist (services.map Registry.untilNul) := by
  obtain ⟨xs, htrace, hstarts⟩ := exists_trace_after (pass manager services i).calls i
  rw [← (tallies_pass manager services i).host_eq] at htrace
  refine ⟨xs.map (·.call), htrace.calls_eq, ?_⟩
  have hstarted := (dialogue_pass manager services i).started_sublist
  rw [manager.map_call_replies] at hstarted
  rw [← htrace.eq_exchanges, ← funext seen_eq_untilNul]
  exact (hstarts _).trans (hstarted.map seen)

/-- A service is asked about by what its name has before a NUL. -/
theorem addresses_make {listed : List String} {poll initial : Duration} {plan : WatchPlan}
    (hplan : (WatchPlan.make listed poll initial).value = .ok plan) :
    Addresses plan.services where
  query name _ := makes_query name
  start name _ := makes_start name
  own_iff name _ := Registry.untilNul_eq_self_iff
  apart h := by
    have hsame : plan.services.map Registry.untilNul = plan.services := by
      rw [List.map_congr_left fun name hname => Registry.untilNul_of_not_mem (h name hname),
        List.map_id']
    rw [hsame]
    exact (WatchPlan.listable_make hplan).nodup
  starts := exists_startsOf_pass plan.services
  once h i new hnew := by
    obtain ⟨new', hnew', hstarts⟩ := exists_startsOf_pass plan.services i
    rw [hnew'] at hnew
    rw [← List.append_cancel_left hnew]
    exact hstarts.nodup h

/-- Two services that are found stopped. -/
theorem addresses_stopped :
    let plan : WatchPlan := ⟨["a", "b"], .ofSeconds 1, .ofSeconds 0⟩
    let i := Interface.new fun f _ => if f = .queryStatus then .succeeds 1 else .succeeds 0
    (WatchPlan.make [" a", "b"] (.ofSeconds 1) (.ofSeconds 0)).value = .ok plan ∧
      Addresses plan.services ∧
      startsOf (fun _ => none) (i.exchanges (pass manager plan.services i).host.calls) =
        ["a", "b"] := by
  have hplan : (WatchPlan.make [" a", "b"] (.ofSeconds 1) (.ofSeconds 0)).value =
      .ok ⟨["a", "b"], .ofSeconds 1, .ofSeconds 0⟩ := by rfl
  exact ⟨hplan, addresses_make hplan, by decide +kernel⟩

/-- A plan may list a name that is read as another one's, which is then started twice. -/
theorem not_own_nul :
    let plan : WatchPlan := ⟨["a", "a\x00b"], .ofSeconds 1, .ofSeconds 0⟩
    let i := Interface.new fun f _ => if f = .queryStatus then .succeeds 1 else .succeeds 0
    (WatchPlan.make ["a", "a\x00b"] (.ofSeconds 1) (.ofSeconds 0)).value = .ok plan ∧
      (start "a\x00b" i).2.calls.filterMap ApiCall.service? = ["a"] ∧
      startsOf (fun _ => none) (i.exchanges (pass manager plan.services i).host.calls) =
        ["a", "a"] :=
  ⟨by rfl, by decide +kernel, by decide +kernel⟩

end Scm

end ServiceSupervisor
