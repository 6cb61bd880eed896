import ServiceSupervisor.Proofs.Supervisor.Refusal

/-!
  Proofs/Supervisor/Requests.lean --- where the requests of a supervisor come from.

  Requests are sent by others, and come in while the controller makes a report.  As long
  as the channel is open none is lost, and each is put behind those that came before.
-/

set_option autoImplicit false

namespace ServiceSupervisor

variable {σ ρ : Type}

/-- What a step makes of a host and of the requests so far: nothing, or one stage is
reported, and the requests that come in meanwhile are added. -/
inductive Tells (r : Reporter ρ) (host : ρ) (requests : List Request) :
    ρ → List Request → Prop
  | nothing : Tells r host requests host requests
  | report (stage : Stage) :
      Tells r host requests (r.report stage host).2 (requests ++ (r.report stage host).1.requests)

/-- What came in before does not matter. -/
theorem Tells.append {r : Reporter ρ} {host host' : ρ} {requests requests' : List Request}
    (h : Tells r host requests host' requests') (before : List Request) :
    Tells r host (before ++ requests) host' (before ++ requests') := by
  cases h with
  | nothing => exact .nothing
  | report stage =>
    rw [← List.append_assoc]
    exact .report stage

/-! ## Steps of a controller -/

namespace Controller

variable {r : Reporter ρ}

theorem tells_apply (r : Reporter ρ) (e : Event) (c : Controller ρ) :
    Tells r c.host c.requests (c.apply r e).2.host (c.apply r e).2.requests := by
  cases hnext : c.stage.next? e with
  | some next =>
    rw [apply_of_next? hnext]
    exact .report next
  | none =>
    rw [apply_of_next?_eq_none hnext]
    exact .nothing

theorem tells_beginStop (r : Reporter ρ) (request : Request) (c : Controller ρ) :
    Tells r c.host c.requests (c.beginStop r request).2.host
      (c.beginStop r request).2.requests := by
  have happly := tells_apply r .stopRequested c
  simp only [beginStop]
  generalize c.apply r .stopRequested = step at happly ⊢
  obtain ⟨_ | _, c'⟩ := step <;> exact happly

theorem tells_finishStop (r : Reporter ρ) (exit : Monitor.Exit) (c : Controller ρ) :
    Tells r c.host c.requests (c.finishStop r exit).2.host (c.finishStop r exit).2.requests :=
  tells_apply r .monitorExited
    { c with watching := false, log := c.log ++ exitNotes c.grace exit }

theorem spawn_keeps (failure : Option String) (c : Controller ρ) :
    (c.spawn failure).2.host = c.host ∧ (c.spawn failure).2.requests = c.requests := by
  simp only [spawn]
  split
  · exact ⟨rfl, rfl⟩
  · split <;> exact ⟨rfl, rfl⟩

end Controller

/-! ## Acts of a supervisor -/

namespace Supervisor

variable {p : Peers σ ρ} {r : Reporter ρ} {s t : Supervisor σ ρ} {next : Progress σ}

/-- What an act puts on the channel by itself. -/
def Act.sends : Act σ → List Request
  | .send request => [request]
  | _ => []

/-- Whether it ends the sending of requests. -/
def Act.isClose : Act σ → Bool
  | .close => true
  | _ => false

/-- A supervisor whose channel is open, and that keeps no request back. -/
structure Open (s : Supervisor σ ρ) : Prop where
  requests_eq : s.controller.requests = []
  closed_eq : s.channel.closed = false

/-- From a supervisor to one whose channel is open too, and has the requests of one report
at most besides those that were sent. -/
structure Hears (r : Reporter ρ) (s : Supervisor σ ρ) (sent : List Request)
    (s' : Supervisor σ ρ) : Prop where
  tells : Tells r s.controller.host (s.channel.sent ++ sent) s'.controller.host s'.channel.sent
  now : s'.Open

theorem Open.hears (h : s.Open) : s.Hears r [] s :=
  ⟨by rw [List.append_nil]; exact .nothing, h⟩

/-- A step of the controller hands over what came in while it was made. -/
theorem Open.putBack (h : t.Open) {step : Except LifecycleError Unit × Controller ρ}
    (hstep : Tells r t.controller.host t.controller.requests step.2.host step.2.requests)
    (hhost : t.controller.host = s.controller.host) (hsent : t.channel.sent = s.channel.sent) :
    s.Hears r [] (proceed next (t.putBack step)) := by
  obtain ⟨result, c⟩ := step
  have hproceed : (proceed next (t.putBack (result, c))).controller = { c with requests := [] } ∧
      (proceed next (t.putBack (result, c))).channel = t.channel.send c.requests := by
    cases result <;> exact ⟨rfl, rfl⟩
  have hchannel : t.channel.send c.requests =
      { t.channel with sent := t.channel.sent ++ c.requests } := by
    rw [Channel.send, if_neg (by simp [h.closed_eq])]
  rw [h.requests_eq, hhost] at hstep
  refine ⟨?_, ?_, ?_⟩
  · rw [hproceed.1, hproceed.2, hchannel, hsent]
    exact hstep.append s.channel.sent
  · rw [hproceed.1]
  · rw [hproceed.2, hchannel]
    exact h.closed_eq

theorem Open.launch (h : s.Open) (failure : Option String) (plan : WatchPlan) (manager : σ) :
    s.Hears r [] (proceed next (s.launch r failure plan manager)) := by
  have hkeeps := Controller.spawn_keeps failure s.controller
  simp only [Supervisor.launch]
  generalize s.controller.spawn failure = spawned at hkeeps ⊢
  obtain ⟨_ | _, c⟩ := spawned
  · refine h.putBack ?_ rfl rfl
    rw [hkeeps.1, hkeeps.2]
    exact .nothing
  · have happly := Controller.tells_apply r .monitorLaunched c
    rw [hkeeps.1, hkeeps.2] at happly
    exact Open.putBack (t := { s with monitor := some (Monitor.Thread.launch plan manager) })
      ⟨h.requests_eq, h.closed_eq⟩ happly rfl rfl

theorem Open.receive (h : s.Open) : s.Hears r [] (s.receive r) := by
  simp only [Supervisor.receive]
  split
  · next request _ =>
    exact Open.putBack (t := { s with channel := s.channel.take })
      ⟨h.requests_eq, h.closed_eq⟩ (Controller.tells_beginStop r request s.controller) rfl rfl
  · split
    · next hclosed =>
      rw [h.closed_eq] at hclosed
      cases hclosed
    · exact h.hears

theorem Open.complete (h : s.Open) (request : Request) (exit : Monitor.Exit) :
    s.Hears r [] (s.complete r request exit) :=
  h.putBack (Controller.tells_finishStop r exit s.controller) rfl rfl

/-- Whatever happens to a supervisor that is not called anew, no request is lost. -/
theorem Open.act (h : s.Open) {x : Act σ} (hcall : x.isCall = false) (hclose : x.isClose = false) :
    s.Hears p.reporter x.sends (s.act p x) := by
  cases x with
  | call o => cases hcall
  | close => cases hclose
  | load =>
    simp only [Supervisor.act, Supervisor.load]
    split
    · split
      · exact ⟨h.hears.tells, h.requests_eq, h.closed_eq⟩
      · exact ⟨h.hears.tells, h.requests_eq, h.closed_eq⟩
    · exact h.hears
  | start =>
    simp only [Supervisor.act]
    split
    · exact h.launch _ _ _
    · exact h.hears
  | receive =>
    simp only [Supervisor.act]
    split
    · exact h.receive
    · exact h.hears
  | join =>
    simp only [Supervisor.act]
    split
    · exact h.complete _ _
    · exact h.hears
  | giveUp =>
    simp only [Supervisor.act]
    split
    · split
      · exact h.complete _ _
      · exact h.hears
    · exact h.hears
  | monitor b => exact ⟨h.hears.tells, h.requests_eq, h.closed_eq⟩
  | cancel => exact ⟨h.hears.tells, h.requests_eq, h.closed_eq⟩
  | send request =>
    have hsend : s.channel.send [request] =
        { s.channel with sent := s.channel.sent ++ [request] } := by
      rw [Channel.send, if_neg (by simp [h.closed_eq])]
    simp only [Supervisor.act, hsend]
    exact ⟨.nothing, h.requests_eq, h.closed_eq⟩

/-- A run begins with the requests on its own channel. -/
theorem Open.callRun (h : s.Open) (hrest : s.atRest = true) (a : Assignment σ)
    (hopen : a.channel.closed = false) :
    Hears p.reporter { s with channel := a.channel } [] (s.act p (.call (.run a))) := by
  rw [act_call p hrest]
  exact Open.putBack (t := { s with channel := a.channel }) ⟨h.requests_eq, hopen⟩
    (Controller.tells_apply p.reporter .enter s.controller) rfl rfl

end Supervisor

end ServiceSupervisor
