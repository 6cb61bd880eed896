import ServiceSupervisor.Proofs.History
import ServiceSupervisor.Proofs.Supervisor.Run

/-!
  Proofs/Supervisor/Refusal.lean --- what an operation that fails leaves behind.

  The controller checks before it acts, so that an operation which fails has done
  nothing.  A run is the exception: it enters first, and only then learns whether there
  is a plan and a thread for it.  Once its monitor is launched it cannot fail either.
-/

set_option autoImplicit false

namespace ServiceSupervisor

open Monitor (Thread)

variable {σ ρ : Type}

/-! ## What the controller checks -/

/-- The stage in which an event is due. -/
def Event.due : Event → Stage
  | enter => .initializing
  | monitorLaunched => .startPending
  | stopRequested => .running
  | monitorExited => .stopPending

theorem Stage.next?_eq_none_iff {s : Stage} {e : Event} : s.next? e = none ↔ s ≠ e.due := by
  cases s <;> cases e <;> simp [next?, Event.due]

/-- Why a launch fails: the first of these reasons that applies. -/
inductive LaunchFails (launched : Prop) (stage : Stage) (failure : Option String) :
    LifecycleError → Prop
  | again (hlaunched : launched) : LaunchFails launched stage failure .alreadyLaunched
  | untimely (hlaunched : ¬ launched) (hstage : stage ≠ .startPending) :
      LaunchFails launched stage failure (.invalidTransition stage .monitorLaunched)
  | threadless {reason : String} (hlaunched : ¬ launched) (hstage : stage = .startPending)
      (hfailure : failure = some reason) : LaunchFails launched stage failure (.spawn reason)

namespace LaunchFails

variable {launched : Prop} {stage : Stage} {failure : Option String} {e e' : LifecycleError}

theorem unique (h : LaunchFails launched stage failure e)
    (h' : LaunchFails launched stage failure e') : e = e' := by
  cases h <;> cases h' <;> simp_all

/-- A launch fails for one of these reasons, or there is none. -/
theorem exists_or (launched : Prop) (stage : Stage) (failure : Option String) :
    (∃ e, LaunchFails launched stage failure e) ∨
      ¬ launched ∧ stage = .startPending ∧ failure = none := by
  by_cases hlaunched : launched
  · exact Or.inl ⟨_, .again hlaunched⟩
  · by_cases hstage : stage = .startPending
    · cases failure with
      | some reason => exact Or.inl ⟨_, .threadless hlaunched hstage rfl⟩
      | none => exact Or.inr ⟨hlaunched, hstage, rfl⟩
    · exact Or.inl ⟨_, .untimely hlaunched hstage⟩

theorem not_of_due (hlaunched : ¬ launched) : ¬ LaunchFails launched .startPending none e := by
  intro h
  cases h with
  | again h => exact hlaunched h
  | untimely _ hstage => exact hstage rfl
  | threadless _ _ hfailure => cases hfailure

end LaunchFails

namespace Controller

variable {r : Reporter ρ} {c : Controller ρ}

/-- A step that an event allows: it is taken in the stage in which the event is due, and
refused in any other before anything is done. -/
structure Checks (e : Event) (c : Controller ρ)
    (step : Except LifecycleError Unit × Controller ρ) : Prop where
  taken : c.stage = e.due → ∃ c', step = (.ok (), c')
  refused : c.stage ≠ e.due → step = (.error (.invalidTransition c.stage e), c)

theorem checks_apply (r : Reporter ρ) (e : Event) (c : Controller ρ) :
    Checks e c (c.apply r e) where
  taken := by
    intro hstage
    cases hnext : c.stage.next? e with
    | none => exact absurd hstage (Stage.next?_eq_none_iff.mp hnext)
    | some next => exact ⟨_, apply_of_next? hnext⟩
  refused := by
    intro hstage
    exact apply_of_next?_eq_none (Stage.next?_eq_none_iff.mpr hstage)

theorem checks_beginStop (r : Reporter ρ) (request : Request) (c : Controller ρ) :
    Checks .stopRequested c (c.beginStop r request) where
  taken := by
    intro hstage
    obtain ⟨c', happly⟩ := (checks_apply r .stopRequested c).taken hstage
    simp only [beginStop, happly]
    exact ⟨_, rfl⟩
  refused := by
    intro hstage
    simp only [beginStop, (checks_apply r .stopRequested c).refused hstage]

theorem spawn_of_launchFails {failure : Option String} {e : LifecycleError}
    (h : LaunchFails (c.launched = true) c.stage failure e) :
    c.spawn failure = (.error e, c) := by
  cases h with
  | again hlaunched => simp [spawn, mayLaunch, hlaunched]
  | untimely hlaunched hstage =>
    have hnext : c.stage.next? .monitorLaunched = none := Stage.next?_eq_none_iff.mpr hstage
    simp [spawn, mayLaunch, hlaunched, hnext]
  | threadless hlaunched hstage hfailure =>
    have hmay : c.mayLaunch = .ok () := by simp [mayLaunch, hlaunched, hstage, Stage.next?]
    simp [spawn, hmay, hfailure]

end Controller

/-! ## How a run may fail -/

/-- Why a run fails that has entered: there is no plan, or no thread for it. -/
def Assignment.Fails (a : Assignment σ) (e : RunError) : Prop :=
  (∃ x, a.plan.value = .error x ∧ e = .settings x) ∨
    ∃ plan reason, a.plan.value = .ok plan ∧ a.spawnFailure = some reason ∧
      e = .lifecycle (.spawn reason)

/-- A run that has only entered, or has failed since. -/
inductive Progress.Early (a : Assignment σ) : Progress σ → Prop
  | entered : Early a (.entered a)
  | planned {plan : WatchPlan} (hplan : a.plan.value = .ok plan) : Early a (.planned a plan)
  | failed {e : RunError} (hfails : a.Fails e) : Early a (.over (.error e))

/-- A run whose monitor was launched, or a stop that was not refused. -/
inductive Progress.Late : Progress σ → Prop
  | waiting : Late .waiting
  | joining {request : Request} : Late (.joining request)
  | succeeded {outcome : StopOutcome} : Late (.over (.ok outcome))

theorem Progress.Late.not_failed {progress : Progress σ} (h : progress.Late) (e : RunError) :
    progress ≠ .over (.error e) := by
  cases h <;> simp

namespace Supervisor

/-! ## Between the steps

A step that is refused puts the controller back, and with it the requests that came in
through it; so it matters that there are none. -/

/-- A supervisor in order, whose controller keeps no request back. -/
structure Tidy (r : Reporter ρ) (host : ρ) (outside : Bool) (s : Supervisor σ ρ) : Prop extends
    Sound r host outside s where
  requests_eq : s.controller.requests = []

variable {p : Peers σ ρ} {r : Reporter ρ} {host : ρ} {outside : Bool} {s : Supervisor σ ρ}
  {next : Progress σ}

@[simp] theorem requests_proceed (next : Progress σ)
    (step : Except LifecycleError Unit × Controller ρ) :
    (proceed next (s.putBack step)).controller.requests = [] := by
  obtain ⟨_ | _, c⟩ := step <;> rfl

@[simp] theorem requests_launch (next : Progress σ) (failure : Option String) (plan : WatchPlan)
    (manager : σ) :
    (proceed next (s.launch r failure plan manager)).controller.requests = [] := by
  simp only [launch]
  split <;> exact requests_proceed _ _

theorem requests_act (h : s.controller.requests = []) (x : Act σ) :
    (s.act p x).controller.requests = [] := by
  have hbecomes := becomes_act p s x
  generalize s.act p x = s' at hbecomes ⊢
  cases hbecomes with
  | aside hsame => exact hsame.trans h
  | steps => exact requests_proceed _ _
  | launches => exact requests_launch _ _ _ _
  | works => exact h

theorem tidy_new (r : Reporter ρ) (host : ρ) (grace : Duration) :
    ((new host : Supervisor σ ρ).withGrace grace).Tidy r host false :=
  ⟨sound_new r host grace, rfl⟩

theorem Tidy.withChannel (h : s.Tidy r host outside) (channel : Channel) :
    Tidy r host outside { s with channel := channel } :=
  ⟨h.toSound.withChannel channel, h.requests_eq⟩

theorem Tidy.act (h : s.Tidy p.reporter host outside) (x : Act σ) :
    (s.act p x).Tidy p.reporter host (x.isCancel || outside) :=
  ⟨h.toSound.act x, requests_act h.requests_eq x⟩

theorem Tidy.follow (h : s.Tidy p.reporter host outside) (acts : List (Act σ)) :
    (s.follow p acts).Tidy p.reporter host (acts.any Act.isCancel || outside) := by
  induction acts generalizing s outside with
  | nil => exact h
  | cons x acts ih =>
    rw [List.any_cons, Bool.or_comm x.isCancel, Bool.or_assoc]
    exact ih (h.act x)

/-! ## What fails at once -/

theorem act_call (p : Peers σ ρ) (hrest : s.atRest = true) (o : Operation σ) :
    s.act p (.call o) = s.call p o := by
  rw [Supervisor.act, if_pos hrest]

/-- The same supervisor, but for an operation that has failed. -/
def failed (s : Supervisor σ ρ) (e : RunError) : Supervisor σ ρ :=
  { s with progress := .over (.error e) }

@[simp] theorem progress_failed (s : Supervisor σ ρ) (e : RunError) :
    (s.failed e).progress = .over (.error e) := rfl

theorem proceed_refused (hrequests : s.controller.requests = []) (e : LifecycleError) :
    proceed next (s.putBack (.error e, s.controller)) = s.failed (.lifecycle e) := by
  obtain ⟨c, monitor, ch, progress⟩ := s
  obtain ⟨stage, launched, spawned, watching, cancelled, grace, host, reports, requests, log⟩ := c
  cases hrequests
  simp [proceed, putBack, withController, failed, Channel.send]

/-- A step that an event allows fails in the other stages, and only there; nothing is
changed by that. -/
theorem fails_iff {e : Event} {step : Except LifecycleError Unit × Controller ρ}
    (hrequests : s.controller.requests = []) (hstep : s.controller.Checks e step)
    (hnext : ∀ x, next ≠ .over (.error x)) (x : RunError) :
    (proceed next (s.putBack step)).progress = .over (.error x) ↔
      s.controller.stage ≠ e.due ∧
        x = .lifecycle (.invalidTransition s.controller.stage e) := by
  by_cases hstage : s.controller.stage = e.due
  · obtain ⟨c, hstep⟩ := hstep.taken hstage
    rw [hstep]
    exact iff_of_false (hnext x) fun h => h.1 hstage
  · rw [hstep.refused hstage, proceed_refused hrequests, progress_failed]
    constructor
    · intro h
      cases h
      exact ⟨hstage, rfl⟩
    · rintro ⟨-, rfl⟩
      rfl

theorem eq_failed_of_fails {e : Event} {step : Except LifecycleError Unit × Controller ρ}
    (hrequests : s.controller.requests = []) (hstep : s.controller.Checks e step)
    (hnext : ∀ x, next ≠ .over (.error x)) {x : RunError}
    (h : (proceed next (s.putBack step)).progress = .over (.error x)) :
    proceed next (s.putBack step) = s.failed x := by
  obtain ⟨hstage, rfl⟩ := (fails_iff hrequests hstep hnext x).mp h
  rw [hstep.refused hstage, proceed_refused hrequests]

/-! ## Launches -/

theorem launch_of_launchFails (hrequests : s.controller.requests = []) {failure : Option String}
    {e : LifecycleError}
    (h : LaunchFails (s.controller.launched = true) s.controller.stage failure e)
    (plan : WatchPlan) (manager : σ) :
    proceed next (s.launch r failure plan manager) = s.failed (.lifecycle e) := by
  simp only [launch, Controller.spawn_of_launchFails h]
  exact proceed_refused hrequests e

/-- A launch that nothing is against. -/
theorem Sound.exists_launched (hs : s.Sound r host outside)
    (hstage : s.controller.stage = .startPending) (plan : WatchPlan) (manager : σ)
    (next : Progress σ) :
    ∃ s' : Supervisor σ ρ, Supervisor.proceed next (s.launch r none plan manager) = s' ∧
      s'.progress = next ∧ s'.controller.stage = .running ∧
      s'.monitor = some (Thread.launch plan manager) := by
  rcases exists_launch hs hstage none plan manager next with
    ⟨reason, hnone, -⟩ | ⟨-, c, hlaunch, hrunning⟩
  · cases hnone
  · exact ⟨_, hlaunch, rfl, hrunning, rfl⟩

theorem Tidy.launch_fails_iff (h : s.Tidy r host outside) (hnext : ∀ x, next ≠ .over (.error x))
    (failure : Option String) (plan : WatchPlan) (manager : σ) (x : RunError) :
    (Supervisor.proceed next (s.launch r failure plan manager)).progress = .over (.error x) ↔
      ∃ e, x = .lifecycle e ∧
        LaunchFails (s.controller.launched = true) s.controller.stage failure e := by
  rcases LaunchFails.exists_or (s.controller.launched = true) s.controller.stage failure with
    ⟨e, he⟩ | ⟨hlaunched, hstage, rfl⟩
  · rw [launch_of_launchFails h.requests_eq he, progress_failed]
    constructor
    · intro hx
      cases hx
      exact ⟨e, rfl, he⟩
    · rintro ⟨e', rfl, he'⟩
      rw [he.unique he']
  · obtain ⟨s', hlaunch, hprogress, -⟩ := h.exists_launched hstage plan manager next
    rw [hlaunch, hprogress]
    refine iff_of_false (hnext x) ?_
    rintro ⟨e, -, he⟩
    rw [hstage] at he
    exact LaunchFails.not_of_due hlaunched he

/-- A launch that succeeds: one that is called for, or the one of a run. -/
inductive Launches (p : Peers σ ρ) (s : Supervisor σ ρ) : Act σ → Prop
  | called {plan : WatchPlan} {manager : σ} {failure : Option String} (hrest : s.atRest = true)
      (hdone : (s.act p (.call (.launch plan manager failure))).progress = .idle) :
      Launches p s (.call (.launch plan manager failure))
  | run {a : Assignment σ} {plan : WatchPlan} (hplanned : s.progress = .planned a plan)
      (hdone : (s.act p .start).progress = .waiting) : Launches p s .start

theorem Tidy.launched_iff (h : s.Tidy r host outside) (hnext : ∀ x, next ≠ .over (.error x))
    (failure : Option String) (plan : WatchPlan) (manager : σ) {s' : Supervisor σ ρ}
    (hs' : s'.Sound r host outside)
    (hlaunch : Supervisor.proceed next (s.launch r failure plan manager) = s') :
    s'.controller.launched = true ↔ s.controller.launched = true ∨ s'.progress = next := by
  rcases LaunchFails.exists_or (s.controller.launched = true) s.controller.stage failure with
    ⟨e, he⟩ | ⟨hlaunched, hstage, rfl⟩
  · rw [launch_of_launchFails h.requests_eq he] at hlaunch
    subst hlaunch
    exact (or_iff_left fun hfailed => hnext _ hfailed.symm).symm
  · obtain ⟨t, ht, hprogress, hrunning, -⟩ := h.exists_launched hstage plan manager next
    rw [ht] at hlaunch
    subst hlaunch
    refine iff_of_true ?_ (Or.inr hprogress)
    rw [hs'.controller.launched_eq, hrunning]
    rfl

theorem isSome_monitor_act (p : Peers σ ρ) {x : Act σ} (hx : x.isLaunch = false) :
    (s.act p x).monitor.isSome = s.monitor.isSome := by
  have hbecomes := becomes_act p s x
  generalize s.act p x = s' at hbecomes ⊢
  cases hbecomes with
  | aside => rfl
  | steps hsame => rw [monitor_proceed, hsame]
  | launches hlaunch =>
    rw [hx] at hlaunch
    cases hlaunch
  | works => exact Option.isSome_map

theorem Tidy.launched_call_iff (h : s.Tidy p.reporter host outside) (plan : WatchPlan)
    (manager : σ) (failure : Option String) :
    (s.act p (.call (.launch plan manager failure))).controller.launched = true ↔
      s.controller.launched = true ∨ Launches p s (.call (.launch plan manager failure)) := by
  have hs' := h.toSound.act (.call (.launch plan manager failure))
  cases hrest : s.atRest with
  | false =>
    have hnone : ¬ Launches p s (.call (.launch plan manager failure)) := by
      rintro ⟨hrest', -⟩
      rw [hrest] at hrest'
      cases hrest'
    rw [Supervisor.act, if_neg (by simp [hrest]), or_iff_left hnone]
  | true =>
    have hcall : s.act p (.call (.launch plan manager failure)) =
        Supervisor.proceed .idle (s.launch p.reporter failure plan manager) := by
      rw [act_call p hrest, Supervisor.call]
    rw [h.launched_iff (by simp) failure plan manager hs' hcall.symm]
    refine or_congr_right ⟨.called hrest, ?_⟩
    rintro ⟨-, hdone⟩
    exact hdone

theorem Tidy.launched_start_iff (h : s.Tidy p.reporter host outside) :
    (s.act p .start).controller.launched = true ↔
      s.controller.launched = true ∨ Launches p s .start := by
  have hs' := h.toSound.act .start
  by_cases hplanned : ∃ a plan, s.progress = .planned a plan
  · obtain ⟨a, plan, hp⟩ := hplanned
    have hstart : s.act p .start =
        Supervisor.proceed .waiting (s.launch p.reporter a.spawnFailure plan a.host) := by
      simp only [Supervisor.act, hp]
    rw [h.launched_iff (by simp) a.spawnFailure plan a.host hs' hstart.symm]
    refine or_congr_right ⟨.run hp, ?_⟩
    rintro (_ | ⟨-, hdone⟩)
    exact hdone
  · have hnone : ¬ Launches p s .start := by
      rintro (_ | ⟨hp, -⟩)
      exact hplanned ⟨_, _, hp⟩
    have hstart : s.act p .start = s := by
      simp only [Supervisor.act]
      split
      · next a plan hp => exact absurd ⟨a, plan, hp⟩ hplanned
      · rfl
    rw [hstart, or_iff_left hnone]

/-- The flag of the controller is raised by a launch that succeeds, and by nothing else. -/
theorem Tidy.launched_act_iff (h : s.Tidy p.reporter host outside) (x : Act σ) :
    (s.act p x).controller.launched = true ↔
      s.controller.launched = true ∨ Launches p s x := by
  cases hx : x.isLaunch with
  | false =>
    have hnone : ¬ Launches p s x := by
      rintro (_ | _) <;> cases hx
    have hs' := h.toSound.act x
    rw [← hs'.monitor_eq, ← h.monitor_eq, isSome_monitor_act p hx, or_iff_left hnone]
  | true =>
    cases x with
    | call o =>
      cases o with
      | launch plan manager failure => exact h.launched_call_iff plan manager failure
      | _ => cases hx
    | start => exact h.launched_start_iff
    | _ => cases hx

theorem Tidy.launched_iff_happened (h : s.Tidy p.reporter host outside)
    (hlaunched : s.controller.launched = false) (acts : List (Act σ)) :
    (s.follow p acts).controller.launched = true ↔
      Happened (Supervisor.act p) (Launches p) s acts := by
  refine iff_happened (Q := fun t : Supervisor σ ρ => t.controller.launched = true)
    (by simp [hlaunched]) ?_ acts
  intro before x
  exact (h.follow before).launched_act_iff x

/-- A launch would succeed, if a thread can be started for it. -/
def CanLaunch (p : Peers σ ρ) (s : Supervisor σ ρ) : Prop :=
  ∀ plan manager,
    (s.act p (.call (.launch plan manager none))).progress = .idle ∧
      (s.act p (.call (.launch plan manager none))).controller.stage = .running ∧
      (s.act p (.call (.launch plan manager none))).monitor = some (Thread.launch plan manager)

theorem Sound.canLaunch (hs : s.Sound p.reporter host outside) (hrest : s.atRest = true)
    (hstage : s.controller.stage = .startPending) : s.CanLaunch p := by
  intro plan manager
  obtain ⟨s', hlaunch, hlaunched⟩ := hs.exists_launched hstage plan manager .idle
  rw [act_call p hrest, Supervisor.call, hlaunch]
  exact hlaunched

/-! ## Runs that fail -/

/-- It cannot fail any more. -/
theorem Sound.late_act (hs : s.Sound p.reporter host outside) (h : s.progress.Late) {x : Act σ}
    (hx : x.isCall = false) : (s.act p x).progress.Late := by
  generalize hp : s.progress = progress at h
  cases h with
  | waiting =>
    cases x with
    | call o => cases hx
    | receive =>
      have hreceive : s.act p .receive = s.receive p.reporter := by simp only [Supervisor.act, hp]
      rw [hreceive]
      rcases hs.receive_cases hp with ⟨hsame, -⟩ | ⟨request, hjoining⟩
      · rw [hsame, hp]
        exact .waiting
      · rw [hjoining]
        exact .joining
    | _ => simpa [Supervisor.act, hp] using Progress.Late.waiting
  | joining =>
    rcases hs.act_of_joining hp x with hjoining | ⟨exit, hover, -⟩
    · rw [hjoining]
      exact .joining
    · rw [hover]
      exact .succeeded
  | succeeded =>
    cases x with
    | call o => cases hx
    | _ => simpa [Supervisor.act, hp] using Progress.Late.succeeded

theorem Sound.late_follow (hs : s.Sound p.reporter host outside) (h : s.progress.Late)
    {during : List (Act σ)} (hduring : during.any Act.isCall = false) :
    (s.follow p during).progress.Late := by
  induction during generalizing s outside with
  | nil => exact h
  | cons x during ih =>
    rw [List.any_cons, Bool.or_eq_false_iff] at hduring
    exact ih (hs.act x) (hs.late_act h hduring.1) hduring.2

/-- A supervisor whose controller has entered since, and done nothing else but log.
`meanwhile` tells whether somebody else has set the cancellation. -/
structure Entered (r : Reporter ρ) (c : Controller ρ) (meanwhile : Bool) (s : Supervisor σ ρ) :
    Prop where
  monitor_eq : s.monitor = none
  controller_eq : ∃ log, (c.moveTo r .startPending).log <+: log ∧ s.controller =
    { c.moveTo r .startPending with
      log := log
      requests := []
      cancelled := c.cancelled || meanwhile }

variable {c : Controller ρ} {meanwhile : Bool}

/-- What is logged, and what becomes of the channel, is no part of it. -/
theorem Entered.aside (h : s.Entered r c meanwhile) {log : List Entry}
    (hlog : s.controller.log <+: log) (ch : Channel) (progress : Progress σ) :
    Entered r c meanwhile ⟨{ s.controller with log := log }, s.monitor, ch, progress⟩ := by
  obtain ⟨hmonitor, before, hbefore, hcontroller⟩ := h
  rw [hcontroller] at hlog
  exact ⟨hmonitor, log, hbefore.trans hlog, by rw [hcontroller]⟩

theorem Entered.stage_eq (h : s.Entered r c meanwhile) : s.controller.stage = .startPending := by
  obtain ⟨log, -, hcontroller⟩ := h.controller_eq
  rw [hcontroller]
  rfl

theorem Entered.cancel (h : s.Entered r c meanwhile) :
    Entered r c true { s with controller := s.controller.cancel } := by
  obtain ⟨hmonitor, log, hlog, hcontroller⟩ := h
  refine ⟨hmonitor, log, hlog, ?_⟩
  rw [hcontroller, Controller.cancel, Bool.or_true]

/-- Where a run is, that was called for in a controller which had not entered. -/
inductive UnderWay (r : Reporter ρ) (c : Controller ρ) (a : Assignment σ) (meanwhile : Bool)
    (s : Supervisor σ ρ) : Prop
  | early (hentered : s.Entered r c meanwhile) (hprogress : s.progress.Early a)
  | late (hprogress : s.progress.Late)

variable {a : Assignment σ}

theorem UnderWay.load (hentered : s.Entered r c meanwhile) :
    (s.load a).UnderWay r c a meanwhile := by
  have hlog : ∀ entry, s.controller.log <+: s.controller.log ++ a.plan.log ++ [entry] := by
    intro entry
    exact (List.prefix_append _ a.plan.log).trans (List.prefix_append _ [entry])
  simp only [Supervisor.load]
  split
  · next e hplan =>
    exact .early (hentered.aside (hlog _) _ _) (.failed (Or.inl ⟨e, hplan, rfl⟩))
  · next plan hplan => exact .early (hentered.aside (hlog _) _ _) (.planned hplan)

theorem UnderWay.start (h : s.Tidy r host outside) (hentered : s.Entered r c meanwhile)
    {plan : WatchPlan} (hplan : a.plan.value = .ok plan) :
    (proceed .waiting (s.launch r a.spawnFailure plan a.host)).UnderWay r c a meanwhile := by
  have hstage : s.controller.stage = .startPending := hentered.stage_eq
  have hlaunched : ¬ s.controller.launched = true := by
    rw [h.controller.launched_eq, hstage]
    decide
  cases hfailure : a.spawnFailure with
  | some reason =>
    rw [launch_of_launchFails h.requests_eq (.threadless hlaunched hstage rfl)]
    have hfails : a.Fails (.lifecycle (.spawn reason)) :=
      Or.inr ⟨plan, reason, hplan, hfailure, rfl⟩
    exact .early (hentered.aside List.prefix_rfl _ _) (.failed hfails)
  | none =>
    obtain ⟨s', hlaunch, hprogress, -⟩ := h.exists_launched hstage plan a.host .waiting
    rw [hlaunch]
    refine .late ?_
    rw [hprogress]
    exact .waiting

/-- Before its launch a run takes no request and waits for no monitor. -/
theorem act_of_early (p : Peers σ ρ) (h : s.progress.Early a) :
    s.act p .receive = s ∧ s.act p .join = s ∧ s.act p .giveUp = s := by
  generalize hp : s.progress = progress at h
  cases h <;> simp [Supervisor.act, hp]

theorem UnderWay.act (hs : s.Tidy p.reporter host outside)
    (h : s.UnderWay p.reporter c a meanwhile) {x : Act σ} (hx : x.isCall = false) :
    (s.act p x).UnderWay p.reporter c a (x.isCancel || meanwhile) := by
  cases h with
  | late hprogress => exact .late (hs.late_act hprogress hx)
  | early hentered hprogress =>
    obtain ⟨hreceive, hjoin, hgiveUp⟩ := act_of_early p hprogress
    have hsame : s.UnderWay p.reporter c a meanwhile := .early hentered hprogress
    cases x with
    | call o => cases hx
    | cancel => exact .early hentered.cancel hprogress
    | load =>
      simp only [Supervisor.act]
      split
      · next a' hp =>
        rw [hp] at hprogress
        cases hprogress
        exact .load hentered
      · exact hsame
    | start =>
      simp only [Supervisor.act]
      split
      · next a' plan hp =>
        rw [hp] at hprogress
        cases hprogress with
        | planned hplan => exact .start hs hentered hplan
      · exact hsame
    | receive =>
      rw [hreceive]
      exact hsame
    | join =>
      rw [hjoin]
      exact hsame
    | giveUp =>
      rw [hgiveUp]
      exact hsame
    | monitor b =>
      have hmonitor : (s.act p (.monitor b)).monitor = none := by
        simp [Supervisor.act, hentered.monitor_eq]
      exact .early ⟨hmonitor, hentered.controller_eq⟩ hprogress
    | _ => exact .early (hentered.aside List.prefix_rfl _ _) hprogress

theorem UnderWay.follow (hs : s.Tidy p.reporter host outside)
    (h : s.UnderWay p.reporter c a meanwhile) {during : List (Act σ)}
    (hduring : during.any Act.isCall = false) :
    (s.follow p during).UnderWay p.reporter c a (during.any Act.isCancel || meanwhile) := by
  induction during generalizing s outside meanwhile with
  | nil => exact h
  | cons x during ih =>
    rw [List.any_cons, Bool.or_eq_false_iff] at hduring
    rw [List.any_cons, Bool.or_comm x.isCancel, Bool.or_assoc]
    exact ih (hs.act x) (h.act hs hduring.1) hduring.2

/-- The call of a run that is not refused. -/
theorem UnderWay.call (h : s.Tidy p.reporter host outside) (hrest : s.atRest = true)
    (hstage : s.controller.stage = .initializing) (a : Assignment σ) :
    (s.act p (.call (.run a))).UnderWay p.reporter s.controller a false := by
  have hmonitor : s.monitor = none := by
    have hlaunched := h.monitor_eq
    rw [h.controller.launched_eq, hstage] at hlaunched
    exact Option.not_isSome_iff_eq_none.mp (by simp [hlaunched, Stage.rank])
  have happly : s.controller.apply p.reporter .enter =
      (.ok (), s.controller.moveTo p.reporter .startPending) :=
    Controller.apply_of_next? (by rw [hstage]; rfl)
  rw [act_call p hrest, Supervisor.call, Supervisor.enter, happly]
  refine .early ⟨hmonitor, _, List.prefix_rfl, ?_⟩ .entered
  rw [Bool.or_false]
  rfl

theorem UnderWay.of_failed (h : s.UnderWay r c a meanwhile) {e : RunError}
    (hover : s.progress = .over (.error e)) : a.Fails e ∧ s.Entered r c meanwhile := by
  cases h with
  | late hprogress => exact absurd hover (hprogress.not_failed e)
  | early hentered hprogress =>
    rw [hover] at hprogress
    cases hprogress with
    | failed hfails => exact ⟨hfails, hentered⟩

/-! ## The main statement -/

/-- The channel of a run takes the place of the one before. -/
def Operation.channel (before : Channel) : Operation σ → Channel
  | .run a => a.channel
  | _ => before

/-- How the operations of a supervisor fail.  `launched` tells whether a launch has
succeeded before. -/
structure FailsSafely (p : Peers σ ρ) (launched : Prop) (s : Supervisor σ ρ) : Prop where
  /-- a call that fails at once changes nothing, but that a run has its channel in place -/
  unchanged : s.atRest = true → ∀ o e, (s.act p (.call o)).progress = .over (.error e) →
    s.act p (.call o) =
      { s with channel := o.channel s.channel, progress := .over (.error e) }
  /-- to enter is refused in every stage but the first, and a run with it; -/
  enter_fails_iff : s.atRest = true → ∀ e,
    (s.act p (.call .enter)).progress = .over (.error e) ↔
      s.controller.stage ≠ .initializing ∧
        e = .lifecycle (.invalidTransition s.controller.stage .enter)
  run_refused_iff : s.atRest = true → ∀ a e,
    (s.act p (.call (.run a))).progress = .over (.error e) ↔
      s.controller.stage ≠ .initializing ∧
        e = .lifecycle (.invalidTransition s.controller.stage .enter)
  /-- a stop is refused in every stage but one, -/
  stop_refused_iff : s.atRest = true → ∀ request e,
    (s.act p (.call (.stop request))).progress = .over (.error e) ↔
      s.controller.stage ≠ .running ∧
        e = .lifecycle (.invalidTransition s.controller.stage .stopRequested)
  /-- and a launch for the first reason that there is -/
  launch_fails_iff : s.atRest = true → ∀ plan manager failure e,
    (s.act p (.call (.launch plan manager failure))).progress = .over (.error e) ↔
      ∃ why, e = .lifecycle why ∧ LaunchFails launched s.controller.stage failure why
  /-- where it was only the thread that was missing, a launch may be tried again -/
  launch_again : s.atRest = true → ∀ plan manager failure reason,
    (s.act p (.call (.launch plan manager failure))).progress =
        .over (.error (.lifecycle (.spawn reason))) →
      (s.act p (.call (.launch plan manager failure))).CanLaunch p
  /-- a stop that is not refused does not fail later -/
  stop_not_failed : s.atRest = true → s.controller.stage = .running →
    ∀ request during e, during.any Act.isCall = false →
      ((s.act p (.call (.stop request))).follow p during).progress ≠ .over (.error e)
  /-- a run that is not refused may fail for want of a plan or of a thread; it has entered
  then, and nothing more, and a launch is still possible -/
  run_failed : s.atRest = true → s.controller.stage = .initializing →
    ∀ a during e, during.any Act.isCall = false →
      ((s.act p (.call (.run a))).follow p during).progress = .over (.error e) →
        a.Fails e ∧
          ((s.act p (.call (.run a))).follow p during).Entered p.reporter s.controller
            (during.any Act.isCancel) ∧
          ((s.act p (.call (.run a))).follow p during).CanLaunch p

theorem Tidy.eq_of_failed (h : s.Tidy p.reporter host outside) (hrest : s.atRest = true)
    {o : Operation σ} {e : RunError} (hover : (s.act p (.call o)).progress = .over (.error e)) :
    s.act p (.call o) =
      { s with channel := o.channel s.channel, progress := .over (.error e) } := by
  rw [act_call p hrest] at hover ⊢
  cases o with
  | enter =>
    exact eq_failed_of_fails h.requests_eq (Controller.checks_apply _ _ _) (by simp) hover
  | stop request =>
    exact eq_failed_of_fails h.requests_eq (Controller.checks_beginStop _ _ _) (by simp) hover
  | run a =>
    have hrequests := (h.withChannel a.channel).requests_eq
    exact eq_failed_of_fails hrequests (Controller.checks_apply _ _ _) (by simp) hover
  | launch plan manager failure =>
    obtain ⟨why, rfl, hwhy⟩ := (h.launch_fails_iff (by simp) failure plan manager e).mp hover
    exact launch_of_launchFails h.requests_eq hwhy plan manager

theorem Tidy.failsSafely (h : s.Tidy p.reporter host outside) {launched : Prop}
    (hlaunched : s.controller.launched = true ↔ launched) : s.FailsSafely p launched where
  unchanged := fun hrest o e hover => h.eq_of_failed hrest hover
  enter_fails_iff := by
    intro hrest e
    rw [act_call p hrest]
    exact fails_iff h.requests_eq (Controller.checks_apply _ _ _) (by simp) e
  run_refused_iff := by
    intro hrest a e
    rw [act_call p hrest]
    have hrequests := (h.withChannel a.channel).requests_eq
    exact fails_iff hrequests (Controller.checks_apply _ _ _) (by simp) e
  stop_refused_iff := by
    intro hrest request e
    rw [act_call p hrest]
    exact fails_iff h.requests_eq (Controller.checks_beginStop _ _ _) (by simp) e
  launch_fails_iff := by
    intro hrest plan manager failure e
    rw [act_call p hrest, ← propext hlaunched]
    exact h.launch_fails_iff (by simp) failure plan manager e
  launch_again := by
    intro hrest plan manager failure reason hover
    have hnow := h.act (.call (.launch plan manager failure))
    have hsame := h.eq_of_failed hrest hover
    rw [act_call p hrest] at hover
    obtain ⟨why, hwhy, hfails⟩ := (h.launch_fails_iff (by simp) failure plan manager _).mp hover
    cases hwhy
    cases hfails with
    | threadless _ hstage _ =>
      refine hnow.canLaunch ?_ ?_ <;> rw [hsame]
      · rfl
      · exact hstage
  stop_not_failed := by
    intro hrest hstage request during e hduring
    have hwaits : (s.act p (.call (.stop request))).progress = .joining request := by
      rw [act_call p hrest]
      exact progress_proceed (h.controller.beginStop request) hstage
    have hlate : (s.act p (.call (.stop request))).progress.Late := hwaits ▸ .joining
    exact ((h.act _).late_follow hlate hduring).not_failed e
  run_failed := by
    intro hrest hstage a during e hduring hover
    have hcalled := h.act (.call (.run a))
    have hrun := (UnderWay.call h hrest hstage a).follow hcalled hduring
    obtain ⟨hfails, hentered⟩ := hrun.of_failed hover
    rw [Bool.or_false] at hentered
    refine ⟨hfails, hentered, (hcalled.follow during).canLaunch ?_ hentered.stage_eq⟩
    simp [atRest, hover]

/-- Whatever happened to a supervisor, an operation that fails on it has changed nothing,
or has only entered. -/
theorem failsSafely_follow (p : Peers σ ρ) (host : ρ) (grace : Duration) (acts : List (Act σ)) :
    (((new host : Supervisor σ ρ).withGrace grace).follow p acts).FailsSafely p
      (Happened (act p) (Launches p) ((new host).withGrace grace) acts) := by
  have hnew := tidy_new (σ := σ) p.reporter host grace
  exact (hnew.follow acts).failsSafely (hnew.launched_iff_happened rfl acts)

/-- A run that finds no thread for its monitor has only entered, and a launch works later. -/
example :
    let plan : WatchPlan := ⟨["a"], .ofSeconds 1, .ofSeconds 0⟩
    let a : Assignment Script := ⟨⟨[]⟩, "", ⟨.ok plan, []⟩, ⟨[], 0, false⟩, some "no thread left"⟩
    let p : Peers Script Unit := ⟨.silent, Script.manager⟩
    let s := (new ()).follow p [.call (.run a), .load, .start]
    s.progress = .over (.error (.lifecycle (.spawn "no thread left"))) ∧
      s.controller.reports = [.startPending] ∧ s.controller.launched = false ∧
      (s.act p (.call (.launch plan ⟨[]⟩ none))).controller.stage = .running :=
  ⟨rfl, rfl, rfl, rfl⟩

end Supervisor

end ServiceSupervisor
