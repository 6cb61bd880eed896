import Mathlib.Logic.Function.Iterate
import ServiceSupervisor.Monitor.Thread
import ServiceSupervisor.Proofs.Monitor.Pass

/-!
  Proofs/Monitor/Trace.lean --- the calls of a monitor's thread are whole passes.

  `Stands` says what a thread has called when it is somewhere: the calls of the passes
  it has made and, amid a pass, those of a pass over the services visited so far.
  Every act keeps that, whether the thread is cancelled or not, so it holds however
  the thread's steps, the ends of its waits and the cancellation are interleaved.
-/

set_option autoImplicit false

namespace ServiceSupervisor.Monitor

variable {σ : Type}

/-! ## Where a thread stands -/

/-- What a thread's work came to, once it is over. -/
def Phase.outcome? : Phase → Option Result
  | .leaving r => some r
  | .announced r => some r
  | .ended r => some r
  | _ => none

/-- Whether a pass was begun that is not counted yet.  One that a crash cut short never
is. -/
def Phase.isAmid : Phase → Bool
  | .visiting _ _ => true
  | .querying _ _ _ => true
  | .starting _ _ _ => true
  | p => p.outcome? = some .crashed

/-- How many passes a thread has begun. -/
def Thread.begun (t : Thread σ) : Nat := t.passes + if t.phase.isAmid then 1 else 0

section Stands

variable (m : Manager σ) (services : List String) (start : σ)

/-- A pass over the first services, after some whole passes. -/
def partway (n : Nat) (done : List String) : PassState σ :=
  pass m done (rounds m services start n).1

/-- A thread with these services that began at `start`: where it is, how many passes it
has made, the manager's state and the calls. -/
inductive Stands : Phase → Nat → σ → List Call → Prop
  | delaying : Stands .delaying 0 start []
  | visiting (n : Nat) {done todo : List String} (h : services = done ++ todo) :
      Stands (.visiting todo (partway m services start n done).report) n
        (partway m services start n done).host
        ((rounds m services start n).2 ++ (partway m services start n done).calls)
  | querying (n : Nat) {done todo : List String} {name : String}
      (h : services = done ++ name :: todo) :
      Stands (.querying name todo (partway m services start n done).report) n
        (partway m services start n done).host
        ((rounds m services start n).2 ++ (partway m services start n done).calls ++
          [.query name])
  | starting (n : Nat) {done todo : List String} {name : String}
      (h : services = done ++ name :: todo)
      (hasks : asksStart (m.query name (partway m services start n done).host).1 = true) :
      Stands (.starting name todo
          (query m (partway m services start n done) name).report.request) n
        (query m (partway m services start n done) name).host
        ((rounds m services start n).2 ++ (partway m services start n done).calls ++
          [.query name] ++ [.start name])
  | checking (n : Nat) :
      Stands .checking (n + 1) (rounds m services start (n + 1)).1
        (rounds m services start (n + 1)).2
  | pausing (n : Nat) :
      Stands .pausing (n + 1) (rounds m services start (n + 1)).1
        (rounds m services start (n + 1)).2
  | finished (n : Nat) {phase : Phase} (h : phase.outcome? = some (.finished n)) :
      Stands phase n (rounds m services start n).1 (rounds m services start n).2
  | crashed (n : Nat) {phase : Phase} {host : σ} {cut : List Call}
      (h : phase.outcome? = some .crashed)
      (hcut : cut <+: (partway m services start n services).calls) :
      Stands phase n host ((rounds m services start n).2 ++ cut)

end Stands

/-- A thread that watches by a plan, from where the manager was at `start`. -/
structure Thread.Keeps (m : Manager σ) (plan : WatchPlan) (start : σ) (t : Thread σ) : Prop where
  plan_eq : t.plan = plan
  stands : Stands m plan.services start t.phase t.passes t.host t.calls

variable {m : Manager σ} {plan : WatchPlan} {start : σ} {t : Thread σ} {services : List String}

theorem Thread.keeps_launch (m : Manager σ) (plan : WatchPlan) (start : σ) :
    (Thread.launch plan start).Keeps m plan start :=
  ⟨rfl, .delaying⟩

theorem partway_snoc (n : Nat) (done : List String) (name : String) :
    partway m services start n (done ++ [name]) = visit m (partway m services start n done) name :=
  pass_snoc m done name _

/-- A pass over all services makes the count one more. -/
theorem Stands.whole (n : Nat) :
    Stands m services start .checking (n + 1) (partway m services start n services).host
      ((rounds m services start n).2 ++ (partway m services start n services).calls) :=
  .checking n

/-- After a visit a pass goes on with the other services. -/
theorem Stands.next (m : Manager σ) (start : σ) (n : Nat) {done todo : List String}
    {name : String} (h : services = done ++ name :: todo) :
    Stands m services start
      (.visiting todo (visit m (partway m services start n done) name).report) n
      (visit m (partway m services start n done) name).host
      ((rounds m services start n).2 ++
        (visit m (partway m services start n done) name).calls) := by
  rw [← partway_snoc]
  exact .visiting n (by simp [h])

/-- Work that is over stays over: nothing is called any more, and the result is the
same. -/
theorem exists_act_of_outcome (t : Thread σ) (cancelled : Bool) (a : Act) {r : Result}
    (h : t.phase.outcome? = some r) :
    ∃ phase : Phase, phase.outcome? = some r ∧ t.act m cancelled a = { t with phase := phase } := by
  obtain ⟨tplan, host, phase, n, calls, log⟩ := t
  dsimp only at h
  cases phase with
  | leaving q =>
    cases a with
    | work => exact ⟨.announced q, h, rfl⟩
    | _ => exact ⟨.leaving q, h, rfl⟩
  | announced q =>
    cases a with
    | work => exact ⟨.ended q, h, rfl⟩
    | _ => exact ⟨.announced q, h, rfl⟩
  | ended q => cases a <;> exact ⟨.ended q, h, rfl⟩
  | _ => cases h

theorem Thread.Keeps.over (h : t.Keeps m plan start) {r : Result}
    (hr : t.phase.outcome? = some r) (cancelled : Bool) (a : Act) :
    (t.act m cancelled a).Keeps m plan start := by
  obtain ⟨phase', hphase', hact⟩ := exists_act_of_outcome (m := m) t cancelled a hr
  rw [hact]
  obtain ⟨tplan, host, phase, n, calls, log⟩ := t
  obtain ⟨rfl, hstands⟩ := h
  dsimp only at hr hstands
  cases hstands with
  | finished n hout => exact ⟨rfl, .finished n (hphase'.trans (hr.symm.trans hout))⟩
  | crashed n hout hcut => exact ⟨rfl, .crashed n (hphase'.trans (hr.symm.trans hout)) hcut⟩
  | _ => cases hr

theorem Thread.Keeps.work (h : t.Keeps m plan start) (cancelled : Bool) :
    (t.work m cancelled).Keeps m plan start := by
  obtain ⟨tplan, host, phase, n, calls, log⟩ := t
  obtain ⟨rfl, hstands⟩ := h
  dsimp only at hstands
  cases hstands with
  | delaying =>
    cases cancelled with
    | true => exact ⟨rfl, .finished 0 rfl⟩
    | false => exact ⟨rfl, .delaying⟩
  | @visiting n done todo hs =>
    cases todo with
    | nil =>
      rw [List.append_nil] at hs
      exact ⟨rfl, hs ▸ .whole n⟩
    | cons name todo => exact ⟨rfl, .querying n hs⟩
  | @querying n done todo name hs =>
    cases hasks : asksStart (m.query name (partway m tplan.services start n done).host).1 with
    | true =>
      simp only [Thread.work, hasks, if_true]
      exact ⟨rfl, .starting n hs hasks⟩
    | false =>
      have hnext := Stands.next m start n hs
      rw [visit_of_not_asksStart m hasks, calls_query, ← List.append_assoc] at hnext
      simp only [Thread.work, hasks]
      exact ⟨rfl, hnext⟩
  | @starting n done todo name hs hasks =>
    have hnext := Stands.next m start n hs
    rw [visit_of_asksStart m hasks, calls_start, calls_query, ← List.append_assoc,
      ← List.append_assoc] at hnext
    exact ⟨rfl, hnext⟩
  | checking n =>
    cases cancelled with
    | true => exact ⟨rfl, .finished (n + 1) rfl⟩
    | false => exact ⟨rfl, .pausing n⟩
  | pausing n =>
    cases cancelled with
    | true => exact ⟨rfl, .finished (n + 1) rfl⟩
    | false => exact ⟨rfl, .pausing n⟩
  | finished n hout => exact .over ⟨rfl, .finished n hout⟩ hout cancelled .work
  | crashed n hout hcut => exact .over ⟨rfl, .crashed n hout hcut⟩ hout cancelled .work

theorem Thread.Keeps.elapse (h : t.Keeps m plan start) (cancelled : Bool) :
    (t.elapse cancelled).Keeps m plan start := by
  obtain ⟨tplan, host, phase, n, calls, log⟩ := t
  obtain ⟨rfl, hstands⟩ := h
  dsimp only at hstands
  -- a wait that is over begins a pass with no service visited yet
  have hbegin : ∀ k, Stands m tplan.services start (.visiting tplan.services .empty) k
      (rounds m tplan.services start k).1 (rounds m tplan.services start k).2 := by
    intro k
    have h : Stands m tplan.services start (.visiting tplan.services .empty) k
        (rounds m tplan.services start k).1 ((rounds m tplan.services start k).2 ++ []) :=
      .visiting k (List.nil_append _).symm
    rwa [List.append_nil] at h
  cases hstands with
  | delaying =>
    cases cancelled with
    | true => exact ⟨rfl, .finished 0 rfl⟩
    | false => exact ⟨rfl, hbegin 0⟩
  | pausing n =>
    cases cancelled with
    | true => exact ⟨rfl, .finished (n + 1) rfl⟩
    | false => exact ⟨rfl, hbegin (n + 1)⟩
  | visiting n hs => exact ⟨rfl, .visiting n hs⟩
  | querying n hs => exact ⟨rfl, .querying n hs⟩
  | starting n hs hasks => exact ⟨rfl, .starting n hs hasks⟩
  | checking n => exact ⟨rfl, .checking n⟩
  | finished n hout => exact .over ⟨rfl, .finished n hout⟩ hout cancelled .elapse
  | crashed n hout hcut => exact .over ⟨rfl, .crashed n hout hcut⟩ hout cancelled .elapse

theorem Thread.Keeps.crash (h : t.Keeps m plan start) : t.crash.Keeps m plan start := by
  obtain ⟨tplan, host, phase, n, calls, log⟩ := t
  obtain ⟨rfl, hstands⟩ := h
  dsimp only at hstands
  cases hstands with
  | @querying n done todo name hs =>
    have hcut := query_prefix_pass m done todo name (rounds m tplan.services start n).1
    rw [← hs] at hcut
    rw [List.append_assoc]
    exact ⟨rfl, .crashed n rfl hcut⟩
  | @starting n done todo name hs hasks =>
    have hcut := start_prefix_pass m done todo name (rounds m tplan.services start n).1 hasks
    rw [← hs] at hcut
    rw [List.append_assoc, List.append_assoc, ← List.append_assoc (partway _ _ _ _ _).calls]
    exact ⟨rfl, .crashed n rfl hcut⟩
  | delaying => exact ⟨rfl, .delaying⟩
  | visiting n hs => exact ⟨rfl, .visiting n hs⟩
  | checking n => exact ⟨rfl, .checking n⟩
  | pausing n => exact ⟨rfl, .pausing n⟩
  | finished n hout => exact .over ⟨rfl, .finished n hout⟩ hout false .crash
  | crashed n hout hcut => exact .over ⟨rfl, .crashed n hout hcut⟩ hout false .crash

/-- Whatever happens in a thread, its calls stay whole passes and the beginning of one. -/
theorem Thread.Keeps.act (h : t.Keeps m plan start) (cancelled : Bool) (a : Act) :
    (t.act m cancelled a).Keeps m plan start := by
  cases a with
  | work => exact h.work cancelled
  | elapse => exact h.elapse cancelled
  | crash => exact h.crash

/-- The calls are those of the passes made, and the beginning of those of one more. -/
theorem Thread.Keeps.calls_eq (h : t.Keeps m plan start) :
    ∃ cut, cut <+: (partway m plan.services start t.passes plan.services).calls ∧
      t.calls = (rounds m plan.services start t.passes).2 ++ cut := by
  obtain ⟨tplan, host, phase, n, calls, log⟩ := t
  obtain ⟨rfl, hstands⟩ := h
  dsimp only at hstands ⊢
  cases hstands with
  | delaying => exact ⟨[], List.nil_prefix, rfl⟩
  | @visiting n done todo hs =>
    have hcut := calls_prefix_pass m done todo (rounds m tplan.services start n).1
    rw [← hs] at hcut
    exact ⟨_, hcut, rfl⟩
  | @querying n done todo name hs =>
    have hcut := query_prefix_pass m done todo name (rounds m tplan.services start n).1
    rw [← hs] at hcut
    exact ⟨_, hcut, List.append_assoc _ _ _⟩
  | @starting n done todo name hs hasks =>
    have hcut := start_prefix_pass m done todo name (rounds m tplan.services start n).1 hasks
    rw [← hs] at hcut
    exact ⟨_, hcut, by simp [partway]⟩
  | checking n => exact ⟨[], List.nil_prefix, (List.append_nil _).symm⟩
  | pausing n => exact ⟨[], List.nil_prefix, (List.append_nil _).symm⟩
  | finished n hout => exact ⟨[], List.nil_prefix, (List.append_nil _).symm⟩
  | crashed n hout hcut => exact ⟨_, hcut, rfl⟩

/-- Work that is finished has come to the passes made, and called nothing else. -/
theorem Thread.Keeps.of_finished (h : t.Keeps m plan start) {k : Nat}
    (hk : t.phase.outcome? = some (.finished k)) :
    t.passes = k ∧ t.calls = (rounds m plan.services start k).2 := by
  obtain ⟨tplan, host, phase, n, calls, log⟩ := t
  obtain ⟨rfl, hstands⟩ := h
  dsimp only at hstands hk ⊢
  cases hstands with
  | finished n hout =>
    rw [hout, Option.some.injEq, Result.finished.injEq] at hk
    exact ⟨hk, by rw [hk]⟩
  | crashed n hout hcut => simp [hout] at hk
  | _ => cases hk

/-! ## No pass begins once the cancellation is set -/

theorem begun_act_of_cancelled (t : Thread σ) (a : Act) : (t.act m true a).begun = t.begun := by
  obtain ⟨plan, host, phase, n, calls, log⟩ := t
  cases a with
  | work =>
    cases phase with
    | visiting todo report => cases todo <;> rfl
    | querying name todo report =>
      simp only [Thread.act, Thread.work]
      split <;> rfl
    | _ => rfl
  | elapse => cases phase <;> rfl
  | crash => cases phase <;> rfl

theorem begun_of_finished {k : Nat} (h : t.phase.outcome? = some (.finished k)) :
    t.begun = t.passes := by
  obtain ⟨plan, host, phase, n, calls, log⟩ := t
  dsimp only at h
  cases phase <;> simp_all [Phase.outcome?, Thread.begun, Phase.isAmid]

/-! ## A cancelled thread comes to its end -/

/-- How many steps a cancelled thread needs at most. -/
def Phase.stepsLeft : Phase → Nat
  | .delaying => 3
  | .visiting todo _ => 3 * todo.length + 4
  | .querying _ todo _ => 3 * todo.length + 6
  | .starting _ todo _ => 3 * todo.length + 5
  | .checking => 3
  | .pausing => 3
  | .leaving _ => 2
  | .announced _ => 1
  | .ended _ => 0

theorem stepsLeft_work (t : Thread σ) (h : t.phase.stepsLeft ≠ 0) :
    (t.work m true).phase.stepsLeft < t.phase.stepsLeft := by
  obtain ⟨plan, host, phase, n, calls, log⟩ := t
  cases phase with
  | visiting todo report =>
    cases todo with
    | nil => exact Nat.lt_succ_self 3
    | cons name todo =>
      simp only [Thread.work, Phase.stepsLeft, List.length_cons]
      omega
  | querying name todo report =>
    simp only [Thread.work]
    split <;> simp only [Phase.stepsLeft] <;> omega
  | starting name todo report =>
    simp only [Thread.work, Phase.stepsLeft]
    omega
  | ended r => exact absurd rfl h
  | _ => simp [Thread.work, Thread.stop, Phase.stepsLeft]

theorem outcome?_work_ne_crashed (t : Thread σ) (h : t.phase.outcome? ≠ some .crashed)
    (cancelled : Bool) : (t.work m cancelled).phase.outcome? ≠ some .crashed := by
  obtain ⟨plan, host, phase, n, calls, log⟩ := t
  cases phase with
  | visiting todo report => cases todo <;> simp [Thread.work, Phase.outcome?]
  | querying name todo report =>
    simp only [Thread.work]
    split <;> simp [Phase.outcome?]
  | delaying => cases cancelled <;> simp [Thread.work, Phase.outcome?]
  | checking => cases cancelled <;> simp [Thread.work, Thread.stop, Phase.outcome?]
  | pausing => cases cancelled <;> simp [Thread.work, Thread.stop, Phase.outcome?]
  | _ => simp_all [Thread.work, Phase.outcome?]

/-- A cancelled thread whose calls are answered comes to its end by its own steps. -/
theorem exists_result_of_cancelled (t : Thread σ) (h : t.phase.outcome? ≠ some .crashed) :
    ∃ n k, ((Thread.work m true)^[n] t).result? = some (.finished k) := by
  by_cases hleft : t.phase.stepsLeft = 0
  · obtain ⟨plan, host, phase, n, calls, log⟩ := t
    cases phase with
    | ended r =>
      cases r with
      | finished k => exact ⟨0, k, rfl⟩
      | crashed => exact absurd rfl h
    | _ => simp [Phase.stepsLeft] at hleft
  · have hlt := stepsLeft_work (m := m) t hleft
    obtain ⟨n, k, hn⟩ :=
      exists_result_of_cancelled (t.work m true) (outcome?_work_ne_crashed t h true)
    exact ⟨n + 1, k, hn⟩
termination_by t.phase.stepsLeft

/-- A thread that is known to be done has only to end. -/
theorem exists_result_of_isAnnounced (m : Manager σ) (cancelled : Bool)
    (h : t.isAnnounced = true) : ∃ r, (t.work m cancelled).result? = some r := by
  obtain ⟨plan, host, phase, n, calls, log⟩ := t
  cases phase with
  | announced r => exact ⟨r, rfl⟩
  | ended r => exact ⟨r, rfl⟩
  | _ => simp [Thread.isAnnounced] at h

/-! ## What an act leaves as it is -/

theorem outcome?_of_result? {r : Result} (h : t.result? = some r) :
    t.phase.outcome? = some r := by
  obtain ⟨plan, host, phase, n, calls, log⟩ := t
  cases phase <;> simp_all [Thread.result?, Phase.outcome?]

/-- A thread that has ended does nothing any more. -/
theorem act_of_result? {r : Result} (h : t.result? = some r) (cancelled : Bool) (a : Act) :
    t.act m cancelled a = t := by
  obtain ⟨plan, host, phase, n, calls, log⟩ := t
  cases phase with
  | ended q => cases a <;> rfl
  | _ => simp [Thread.result?] at h

theorem begun_le_act (cancelled : Bool) (a : Act) : t.begun ≤ (t.act m cancelled a).begun := by
  cases cancelled with
  | true => exact Nat.le_of_eq (begun_act_of_cancelled t a).symm
  | false =>
    obtain ⟨plan, host, phase, n, calls, log⟩ := t
    cases a with
    | work =>
      cases phase with
      | visiting todo report => cases todo <;> exact Nat.le_refl _
      | querying name todo report =>
        simp only [Thread.act, Thread.work]
        split <;> exact Nat.le_refl _
      | _ => exact Nat.le_refl _
    | elapse =>
      cases phase with
      | delaying => exact Nat.le_succ _
      | pausing => exact Nat.le_succ _
      | _ => exact Nat.le_refl _
    | crash => cases phase <;> exact Nat.le_refl _

theorem phase_act_ne_delaying (cancelled : Bool) (a : Act) (h : t.phase ≠ .delaying) :
    (t.act m cancelled a).phase ≠ .delaying := by
  obtain ⟨plan, host, phase, n, calls, log⟩ := t
  cases a with
  | work =>
    cases phase with
    | delaying => exact absurd rfl h
    | visiting todo report => cases todo <;> simp [Thread.act, Thread.work]
    | querying name todo report =>
      simp only [Thread.act, Thread.work]
      split <;> simp
    | _ => cases cancelled <;> simp [Thread.act, Thread.work, Thread.stop]
  | elapse =>
    cases phase <;> cases cancelled <;>
      simp_all [Thread.act, Thread.elapse, Thread.stop, Thread.beginPass]
  | crash => cases phase <;> simp_all [Thread.act, Thread.crash]

end ServiceSupervisor.Monitor
