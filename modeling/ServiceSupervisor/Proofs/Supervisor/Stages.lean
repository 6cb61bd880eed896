import ServiceSupervisor.Proofs.Monitor.Trace
import ServiceSupervisor.Proofs.Supervisor.Controller
import ServiceSupervisor.Supervisor.Basic

/-!
  Proofs/Supervisor/Stages.lean --- a supervisor's stages, flags and reports agree.

  Operations may be called in any order, refused, or fail halfway, and the monitor and
  others go on meanwhile.  `Sound` is kept by every act; between operations it leaves
  no stop half done.
-/

set_option autoImplicit false

namespace ServiceSupervisor

open Monitor (Thread Exit exists_result_of_isAnnounced)

variable {σ ρ : Type}

/-- Where the operation under way may be at a stage. -/
def Progress.Fits : Progress σ → Stage → Prop
  | .idle, stage => stage ≠ .stopPending
  | .entered _, stage => stage = .startPending
  | .planned _ _, stage => stage = .startPending
  | .waiting, stage => stage = .running
  | .joining _, stage => stage = .stopPending
  | .over _, stage => stage ≠ .stopPending

namespace Supervisor

/-- Whether somebody sets the cancellation from outside. -/
def Act.isCancel : Act σ → Bool
  | .cancel => true
  | _ => false

/-- The controller is as it should be at its stage, and so are the monitor and the
operation under way. -/
structure Sound (r : Reporter ρ) (host : ρ) (outside : Bool) (s : Supervisor σ ρ) : Prop where
  controller : s.controller.Sound r host outside
  monitor_eq : s.monitor.isSome = s.controller.launched
  fits : s.progress.Fits s.controller.stage

variable {p : Peers σ ρ} {r : Reporter ρ} {host : ρ} {outside : Bool}
  {s : Supervisor σ ρ} {next : Progress σ}

theorem sound_new (r : Reporter ρ) (host : ρ) (grace : Duration) :
    ((new host : Supervisor σ ρ).withGrace grace).Sound r host false :=
  have h := Controller.sound_new r host
  ⟨⟨⟨h.reports_eq, h.host_eq⟩, h.launched_eq, h.spawned_eq, h.watching_eq, h.cancelled_eq⟩,
    rfl, by simp [new, withGrace, Controller.new, Progress.Fits]⟩

/-! ## Steps of the controller -/

theorem Sound.stage_of_atRest (h : s.Sound r host outside) (hrest : s.atRest = true) :
    s.controller.stage ≠ .stopPending := by
  have hfits := h.fits
  cases hp : s.progress <;> simp_all [atRest, Progress.Fits]

theorem Sound.withChannel (h : s.Sound r host outside) (channel : Channel) :
    Sound r host outside { s with channel := channel } :=
  ⟨h.controller, h.monitor_eq, h.fits⟩

theorem Sound.note (h : s.Sound r host outside) (level : Level) (text : String) :
    (s.note level text).Sound r host outside :=
  ⟨h.controller.withLog _ _, h.monitor_eq, h.fits⟩

/-- A step that is refused ends the operation. -/
theorem Sound.refused (h : s.Sound r host outside) (hstage : s.controller.stage ≠ .stopPending)
    (e : LifecycleError) :
    (proceed next (s.putBack (.error e, s.controller))).Sound r host outside :=
  ⟨h.controller.withLog _ _, h.monitor_eq, hstage⟩

theorem sound_done {c : Controller ρ} (hc : c.Sound r host outside)
    (hmonitor : s.monitor.isSome = c.launched) (hfits : next.Fits c.stage) :
    (proceed next (s.putBack (.ok (), c))).Sound r host outside :=
  ⟨hc.withLog _ _, hmonitor, hfits⟩

/-- A step that launches nothing leads on, or ends the operation. -/
theorem Sound.proceed (h : s.Sound r host outside)
    {step : Except LifecycleError Unit × Controller ρ} {old now : Stage}
    (hstep : Controller.Leads r host outside s.controller old now step)
    (hold : s.controller.stage = .stopPending → old = .stopPending)
    (hrank : 2 ≤ now.rank ↔ 2 ≤ old.rank) (hfits : next.Fits now) :
    (proceed next (s.putBack step)).Sound r host outside := by
  cases hstep with
  | refused hne e =>
    refine h.refused (fun hstage => hne ?_) e
    rw [hstage, hold hstage]
  | done hstage hnext hsound =>
    refine sound_done hsound ?_ (hnext.symm ▸ hfits)
    rw [h.monitor_eq, h.controller.launched_eq, hsound.launched_eq, hstage, hnext]
    exact (decide_eq_decide.mpr hrank).symm

theorem Sound.enter (h : s.Sound r host outside) (hstage : s.controller.stage ≠ .stopPending)
    (hfits : next.Fits .startPending) :
    (Supervisor.proceed next (s.enter r)).Sound r host outside :=
  h.proceed h.controller.enter (fun hs => absurd hs hstage) (by decide) hfits

theorem Sound.launch (h : s.Sound r host outside) (hstage : s.controller.stage ≠ .stopPending)
    (failure : Option String) (plan : WatchPlan) (manager : σ) (hfits : next.Fits .running) :
    (Supervisor.proceed next (s.launch r failure plan manager)).Sound r host outside := by
  rcases h.controller.spawn failure with
    ⟨e, hspawn, -⟩ | ⟨armed, c, hspawn, -, -, happly, hnext, hsound⟩
  · simp only [Supervisor.launch, hspawn]
    exact h.refused hstage e
  · simp only [Supervisor.launch, hspawn, happly]
    refine sound_done hsound ?_ (hnext.symm ▸ hfits)
    rw [hsound.launched_eq, hnext]
    rfl

theorem Sound.beginStop (h : s.Sound r host outside) (hstage : s.controller.stage ≠ .stopPending)
    (request : Request) (hfits : next.Fits .stopPending) :
    (Supervisor.proceed next (s.beginStop r request)).Sound r host outside :=
  h.proceed (h.controller.beginStop request) (fun hs => absurd hs hstage) (by decide) hfits

theorem Sound.complete (h : s.Sound r host outside) (hstage : s.controller.stage = .stopPending)
    (request : Request) (exit : Exit) : (s.complete r request exit).Sound r host outside :=
  h.proceed (h.controller.finishStop exit hstage) (fun _ => rfl) (by decide)
    (by simp [Progress.Fits])

/-! ## Acts -/

theorem Sound.call (h : s.Sound p.reporter host outside) (hrest : s.atRest = true)
    (o : Operation σ) : (s.call p o).Sound p.reporter host outside := by
  have hstage := h.stage_of_atRest hrest
  cases o with
  | enter => exact h.enter hstage (by simp [Progress.Fits])
  | launch plan manager failure =>
    exact h.launch hstage failure plan manager (by simp [Progress.Fits])
  | stop request => exact h.beginStop hstage request rfl
  | run a => exact (h.withChannel a.channel).enter hstage rfl

theorem Sound.load (h : s.Sound r host outside) (hstage : s.controller.stage = .startPending)
    (a : Assignment σ) : (s.load a).Sound r host outside := by
  have hne : s.controller.stage ≠ .stopPending := by simp [hstage]
  simp only [Supervisor.load]
  split
  · exact ⟨h.controller.withLog _ _, h.monitor_eq, hne⟩
  · exact ⟨h.controller.withLog _ _, h.monitor_eq, hstage⟩

theorem Sound.receive (h : s.Sound r host outside) (hstage : s.controller.stage = .running) :
    (s.receive r).Sound r host outside := by
  have hne : s.controller.stage ≠ .stopPending := by simp [hstage]
  simp only [Supervisor.receive]
  split
  · next request _ => exact (h.withChannel s.channel.take).beginStop hne request rfl
  · split
    · exact (h.note .warn "control channel closed; stopping").beginStop hne .stop rfl
    · exact h

/-- No act takes a supervisor out of order. -/
theorem Sound.act (h : s.Sound p.reporter host outside) (a : Act σ) :
    (s.act p a).Sound p.reporter host (a.isCancel || outside) := by
  have hfits := h.fits
  cases a with
  | cancel => exact ⟨h.controller.cancel, h.monitor_eq, hfits⟩
  | call o =>
    simp only [Supervisor.act]
    split
    · next hrest => exact h.call hrest o
    · exact h
  | load =>
    simp only [Supervisor.act]
    split
    · next a hp =>
      rw [hp] at hfits
      exact h.load hfits a
    · exact h
  | start =>
    simp only [Supervisor.act]
    split
    · next a plan hp =>
      rw [hp] at hfits
      have hstage : s.controller.stage = .startPending := hfits
      exact h.launch (by simp [hstage]) _ _ _ rfl
    · exact h
  | receive =>
    simp only [Supervisor.act]
    split
    · next hp =>
      rw [hp] at hfits
      exact h.receive hfits
    · exact h
  | join =>
    simp only [Supervisor.act]
    split
    · next request exit hp hexit =>
      rw [hp] at hfits
      exact h.complete hfits request exit
    · exact h
  | giveUp =>
    simp only [Supervisor.act]
    split
    · next request hp =>
      rw [hp] at hfits
      split
      · exact h.complete hfits request _
      · exact h
    · exact h
  | monitor a => exact ⟨h.controller, by simpa [Supervisor.act] using h.monitor_eq, hfits⟩
  | send request => exact h.withChannel _
  | close => exact h.withChannel _

theorem Sound.follow (h : s.Sound p.reporter host outside) (acts : List (Act σ)) :
    (s.follow p acts).Sound p.reporter host (acts.any Act.isCancel || outside) := by
  induction acts generalizing s outside with
  | nil => exact h
  | cons a acts ih =>
    rw [List.any_cons, Bool.or_comm a.isCancel, Bool.or_assoc]
    exact ih (h.act a)

/-! ## Steps that are due -/

/-- A step whose stage has come is not refused. -/
theorem exists_proceed (next : Progress σ) {step : Except LifecycleError Unit × Controller ρ}
    {old now : Stage}
    (hstep : Controller.Leads r host outside s.controller old now step)
    (hold : s.controller.stage = old) :
    ∃ c : Controller ρ, Supervisor.proceed next (s.putBack step) =
      { s.withController c with progress := next } ∧ c.stage = now := by
  cases hstep with
  | refused hne e => exact absurd hold hne
  | done hstage hnext hsound => exact ⟨_, rfl, hnext⟩

theorem progress_proceed {step : Except LifecycleError Unit × Controller ρ} {old now : Stage}
    (hstep : Controller.Leads r host outside s.controller old now step)
    (hold : s.controller.stage = old) :
    (Supervisor.proceed next (s.putBack step)).progress = next := by
  obtain ⟨c, hproceed, -⟩ := exists_proceed next hstep hold
  rw [hproceed]

theorem Sound.progress_complete (h : s.Sound r host outside)
    (hstage : s.controller.stage = .stopPending) (request : Request) (exit : Exit) :
    (s.complete r request exit).progress = .over (.ok ⟨request, exit⟩) :=
  progress_proceed (h.controller.finishStop exit hstage) hstage

/-- A launch that is due fails only for want of a thread. -/
theorem exists_launch (hs : s.Sound r host outside)
    (hstage : s.controller.stage = .startPending) (failure : Option String) (plan : WatchPlan)
    (manager : σ) (next : Progress σ) :
    (∃ reason, failure = some reason ∧ proceed next (s.launch r failure plan manager) =
        { s.withController s.controller with
          progress := .over (.error (.lifecycle (.spawn reason))) }) ∨
      failure = none ∧ ∃ c : Controller ρ, proceed next (s.launch r failure plan manager) =
        { ({ s with monitor := some (Thread.launch plan manager) }).withController c with
          progress := next } ∧ c.stage = .running := by
  rcases hs.controller.spawn failure with
    ⟨e, hspawn, hwhy⟩ | ⟨armed, c, hspawn, hnone, -, happly, hrunning, -⟩
  · obtain ⟨reason, hreason, rfl⟩ := hwhy hstage
    exact Or.inl ⟨reason, hreason, by simp [Supervisor.launch, hspawn, Supervisor.proceed, putBack]⟩
  · refine Or.inr ⟨hnone, c, ?_, hrunning⟩
    simp [Supervisor.launch, hspawn, happly, Supervisor.proceed, putBack]

/-! ## Stops -/

/-- The stop at the end of a run is not refused; it waits only for a request. -/
theorem Sound.receive_cases (h : s.Sound r host outside) (hp : s.progress = .waiting) :
    s.receive r = s ∧ s.channel.next? = none ∧ s.channel.closed = false ∨
      ∃ request, (s.receive r).progress = .joining request := by
  have hfits := h.fits
  rw [hp] at hfits
  simp only [Supervisor.receive]
  split
  · next request _ =>
    exact Or.inr ⟨request, progress_proceed (h.controller.beginStop request) hfits⟩
  · next hnext =>
    split
    · have hnote := h.note .warn "control channel closed; stopping"
      exact Or.inr ⟨.stop, progress_proceed (hnote.controller.beginStop .stop) hfits⟩
    · next hopen => exact Or.inl ⟨rfl, hnext, by simpa using hopen⟩

/-- While a stop waits there is a monitor to wait for. -/
theorem Sound.watching_of_joining (h : s.Sound r host outside) {request : Request}
    (hp : s.progress = .joining request) :
    s.controller.stage = .stopPending ∧ s.controller.watching = true ∧
      ∃ t, s.monitor = some t := by
  have hfits := h.fits
  rw [hp] at hfits
  have hstage : s.controller.stage = .stopPending := hfits
  refine ⟨hstage, by simp [h.controller.watching_eq, hstage], Option.isSome_iff_exists.mp ?_⟩
  rw [h.monitor_eq, h.controller.launched_eq, hstage]
  rfl

/-- What a stop that waited for a thread may answer: it gave up, or the thread ended. -/
def Answers (s : Supervisor σ ρ) (exit : Exit) : Prop :=
  exit = .timedOut ∨
    ∃ t result, s.monitor = some t ∧ t.result? = some result ∧ exit = .ofResult result

theorem Sound.answers_of_exit? (h : s.Sound r host outside) {request : Request} {exit : Exit}
    (hp : s.progress = .joining request) (hexit : s.exit? = some exit) : s.Answers exit := by
  obtain ⟨-, hwatching, t, ht⟩ := h.watching_of_joining hp
  simp only [exit?, hwatching, if_true, ht, Option.bind_some, Option.map_eq_some_iff] at hexit
  obtain ⟨result, hresult, hexit⟩ := hexit
  exact Or.inr ⟨t, result, ht, hresult, hexit.symm⟩

/-- A stop that waits goes on waiting, or succeeds. -/
theorem Sound.act_of_joining (h : s.Sound p.reporter host outside) {request : Request}
    (hp : s.progress = .joining request) (a : Act σ) :
    (s.act p a).progress = .joining request ∨
      ∃ exit, (s.act p a).progress = .over (.ok ⟨request, exit⟩) ∧ s.Answers exit := by
  have hstage := (h.watching_of_joining hp).1
  cases a with
  | join =>
    cases hexit : s.exit? with
    | none => exact Or.inl (by simp [Supervisor.act, hp, hexit])
    | some exit =>
      refine Or.inr ⟨exit, ?_, h.answers_of_exit? hp hexit⟩
      simpa [Supervisor.act, hp, hexit] using h.progress_complete hstage request exit
  | giveUp =>
    cases hmay : s.mayGiveUp with
    | false => exact Or.inl (by simp [Supervisor.act, hp, hmay])
    | true =>
      refine Or.inr ⟨.timedOut, ?_, Or.inl rfl⟩
      simpa [Supervisor.act, hp, hmay] using h.progress_complete hstage request .timedOut
  | _ => exact Or.inl (by simp [Supervisor.act, atRest, hp])

/-- A stop that waits can succeed, without anybody's help but the thread's own. -/
theorem Sound.exists_answer (h : s.Sound p.reporter host outside) {request : Request}
    (hp : s.progress = .joining request) :
    ∃ more exit, (s.follow p more).progress = .over (.ok ⟨request, exit⟩) := by
  obtain ⟨hstage, hwatching, t, ht⟩ := h.watching_of_joining hp
  cases hannounced : t.isAnnounced with
  | false =>
    refine ⟨[.giveUp], .timedOut, ?_⟩
    have hmay : s.mayGiveUp = true := by simp [mayGiveUp, hwatching, ht, hannounced]
    simpa [Supervisor.follow, Supervisor.act, hp, hmay] using
      h.progress_complete hstage request .timedOut
  | true =>
    -- the thread has only to end now, and then the wait is over
    obtain ⟨result, hresult⟩ :=
      exists_result_of_isAnnounced p.manager s.controller.cancelled hannounced
    refine ⟨[.monitor .work, .join], .ofResult result, ?_⟩
    have hs : (s.act p (.monitor .work)).exit? = some (.ofResult result) := by
      simp [Supervisor.act, exit?, hwatching, ht, Thread.act, hresult]
    have hcomplete := (h.act (.monitor .work)).progress_complete hstage request (.ofResult result)
    have hjoin : (s.act p (.monitor .work)).act p .join =
        (s.act p (.monitor .work)).complete p.reporter request (.ofResult result) := by
      rw [Supervisor.act.eq_def, hs]
      simp [Supervisor.act, hp]
    exact (congrArg Supervisor.progress hjoin).trans hcomplete

/-! ## The main statement -/

/-- How a supervisor stands after some acts. -/
structure Orderly (p : Peers σ ρ) (host : ρ) (acts : List (Act σ)) (s : Supervisor σ ρ) :
    Prop where
  /-- the stages up to the present one were reported, each once and in order, -/
  reports_eq : s.controller.reports = Stage.later.take s.controller.stage.rank
  /-- and this is what the host was told, whatever it made of it -/
  host_eq : s.controller.host =
    s.controller.reports.foldl (fun h stage => (p.reporter.report stage h).2) host
  /-- a monitor is held in one stage only -/
  watching_iff : s.atRest = true → (s.controller.watching = true ↔ s.controller.stage = .running)
  launched_iff : s.atRest = true →
    (s.controller.launched = true ↔ s.controller.stage = .running ∨ s.controller.stage = .stopped)
  /-- no second thread is ever started -/
  spawned_eq : s.controller.spawned = if s.controller.launched then 1 else 0
  /-- no stop is left half done -/
  not_stopPending : s.atRest = true → s.controller.stage ≠ .stopPending
  cancelled_of_stopped : s.controller.stage = .stopped → s.controller.cancelled = true
  /-- a cancellation that nobody else has set is a stop's -/
  stopped_of_cancelled : s.atRest = true → acts.any Act.isCancel = false →
    s.controller.cancelled = true → s.controller.stage = .stopped
  /-- what is due is not refused: the first operation, -/
  enters : s.atRest = true → s.controller.stage = .initializing →
    (s.act p (.call .enter)).controller.stage = .startPending
  /-- the launch if there is a thread for it, -/
  launches : s.atRest = true → s.controller.stage = .startPending → ∀ plan manager,
    (s.act p (.call (.launch plan manager none))).controller.stage = .running
  /-- and any stop while a monitor runs; it waits, -/
  stop_waits : s.atRest = true → s.controller.stage = .running → ∀ request,
    (s.act p (.call (.stop request))).progress = .joining request
  /-- as does the stop of a run that has a request, -/
  run_waits : s.progress = .waiting →
    s.act p .receive = s ∨ ∃ request, (s.act p .receive).progress = .joining request
  /-- goes on waiting until it succeeds, with what became of the monitor's thread, -/
  stop_answers : ∀ request, s.progress = .joining request → ∀ a,
    (s.act p a).progress = .joining request ∨
      ∃ exit, (s.act p a).progress = .over (.ok ⟨request, exit⟩) ∧ s.Answers exit
  /-- and nothing can keep it from that -/
  stop_succeeds : ∀ request, s.progress = .joining request →
    ∃ more exit, (s.follow p more).progress = .over (.ok ⟨request, exit⟩)

theorem Sound.orderly {acts : List (Act σ)} (h : s.Sound p.reporter host (acts.any Act.isCancel)) :
    s.Orderly p host acts where
  reports_eq := h.controller.reports_eq
  host_eq := h.controller.host_eq
  watching_iff := by
    intro hrest
    simp [h.controller.watching_eq, h.stage_of_atRest hrest]
  launched_iff := by
    intro hrest
    have hstage := h.stage_of_atRest hrest
    rw [h.controller.launched_eq]
    cases hs : s.controller.stage <;> simp_all [Stage.rank]
  spawned_eq := by
    rw [h.controller.spawned_eq]
    cases s.controller.launched <;> rfl
  not_stopPending := h.stage_of_atRest
  cancelled_of_stopped := by
    intro hs
    simp [h.controller.cancelled_eq, hs, Stage.rank]
  stopped_of_cancelled := by
    intro hrest hnone hcancelled
    have hstage := h.stage_of_atRest hrest
    rw [h.controller.cancelled_eq, hnone] at hcancelled
    cases hs : s.controller.stage <;> simp_all [Stage.rank]
  enters := by
    intro hrest hstage
    obtain ⟨c, hproceed, hpending⟩ := exists_proceed .idle h.controller.enter hstage
    rw [Supervisor.act, if_pos hrest, Supervisor.call, Supervisor.enter, hproceed]
    exact hpending
  launches := by
    intro hrest hstage plan manager
    rw [Supervisor.act, if_pos hrest, Supervisor.call]
    rcases exists_launch h hstage none plan manager .idle with
      ⟨reason, hnone, -⟩ | ⟨-, c, hlaunch, hrunning⟩
    · cases hnone
    · rw [hlaunch]
      exact hrunning
  stop_waits := by
    intro hrest hstage request
    rw [Supervisor.act, if_pos hrest]
    exact progress_proceed (h.controller.beginStop request) hstage
  run_waits := by
    intro hp
    simp only [Supervisor.act, hp]
    exact (h.receive_cases hp).imp And.left id
  stop_answers := fun request hp a => h.act_of_joining hp a
  stop_succeeds := fun request hp => h.exists_answer hp

/-- Whatever happens to a supervisor, and in whatever order, its stage, its flags, its
monitor and its reports agree. -/
theorem orderly_follow (p : Peers σ ρ) (host : ρ) (grace : Duration) (acts : List (Act σ)) :
    (((new host : Supervisor σ ρ).withGrace grace).follow p acts).Orderly p host acts := by
  have h := (sound_new (σ := σ) p.reporter host grace).follow acts
  rw [Bool.or_false] at h
  exact h.orderly

end Supervisor

end ServiceSupervisor
