import ServiceSupervisor.Proofs.Supervisor.Requests
import ServiceSupervisor.Scm.Service

/-!
  Proofs/Scm/Service.lean --- what the service manager is told of a service.

  Wherever a service fails, and whatever controls it gets and when, the manager is told
  one of four stories, each with its own ending.  Reports that are refused count as
  made: nothing depends on what the manager makes of them.
-/

set_option autoImplicit false

namespace ServiceSupervisor.Scm

open Monitor (Thread)

/-! ## The reports -/

namespace StatusLine

variable {l l' : StatusLine} {requests requests' : List Request}

/-- The controls that arrived while the line went from one state to another. -/
def arrivals (l l' : StatusLine) : List Control :=
  ((List.range l'.sent.length).drop l.sent.length).flatMap fun n => l.controls (n + 1)

theorem arrivals_self (l : StatusLine) : l.arrivals l = [] := by
  rw [arrivals, List.drop_of_length_le (Nat.le_of_eq List.length_range)]
  rfl

theorem value_handle (c : Control) : (c.handle true).value = c.request? := by
  rw [Control.handle]
  split <;> simp_all

theorem filterMap_value_handle (cs : List Control) :
    (cs.map (·.handle true)).filterMap (·.value) = cs.filterMap Control.request? := by
  rw [List.filterMap_map]
  exact congrArg (fun f => cs.filterMap f) (funext value_handle)

/-- A report lets the controls arrive that come with it. -/
theorem arrivals_send (stage : Stage) (exit : ExitCode) (l : StatusLine) :
    l.arrivals (l.send stage exit).2 = l.controls (l.sent.length + 1) := by
  have hlength : (l.send stage exit).2.sent.length = l.sent.length + 1 := by simp [send]
  rw [arrivals, hlength, List.range_succ, List.drop_left' List.length_range,
    List.flatMap_singleton]

/-- The requests that come in with a report are those of the controls that arrive. -/
theorem arrivals_of_tells (h : Tells reporter l requests l' requests') :
    l'.controls = l.controls ∧
      requests' = requests ++ (l.arrivals l').filterMap Control.request? := by
  cases h with
  | nothing => simp [arrivals_self]
  | report stage =>
    by_cases hstage : stage = .initializing
    · simp [reporter, hstage, arrivals_self]
    · have hsend : reporter.report stage l = l.send stage (.win32 0) := if_neg hstage
      rw [hsend, arrivals_send]
      exact ⟨rfl, congrArg (requests ++ ·) (filterMap_value_handle _)⟩

end StatusLine

/-! ## What controls ask for -/

/-- What the controls that stop a service ask for. -/
inductive Control.Asks : Control → Request → Prop
  | stop : Asks .stop .stop
  | shutdown : Asks .shutdown .shutdown
  | preshutdown : Asks .preshutdown .shutdown

/-- The first control that asks for anything asks for `r`. -/
inductive FirstAsks (r : Request) : List Control → Prop
  | here {c : Control} {cs : List Control} (h : c.Asks r) : FirstAsks r (c :: cs)
  | later {c : Control} {cs : List Control} (hidle : ∀ r', ¬ c.Asks r') (h : FirstAsks r cs) :
      FirstAsks r (c :: cs)

section Asks

variable {c : Control} {cs : List Control} {r : Request}

theorem Control.request?_eq_some_iff : c.request? = some r ↔ c.Asks r := by
  constructor
  · intro h
    cases c <;> cases h <;> constructor
  · rintro (_ | _) <;> rfl

theorem Control.request?_eq_none_iff : c.request? = none ↔ ∀ r, ¬ c.Asks r := by
  simp only [← request?_eq_some_iff, Option.eq_none_iff_forall_ne_some, ne_eq]

theorem firstAsks_of_findSome? (h : cs.findSome? Control.request? = some r) : FirstAsks r cs := by
  induction cs with
  | nil => cases h
  | cons c cs ih =>
    rw [List.findSome?_cons] at h
    cases hrequest : c.request? with
    | some r' =>
      rw [hrequest] at h
      cases h
      exact .here (Control.request?_eq_some_iff.mp hrequest)
    | none =>
      rw [hrequest] at h
      exact .later (Control.request?_eq_none_iff.mp hrequest) (ih h)

end Asks

/-! ## The stories -/

namespace StatusReport

/-- What is told of a service that goes all the way. -/
def story : List StatusReport :=
  [⟨.startPending, 0, .win32 0, 1, .ofSeconds 5⟩,
    ⟨.running, 5, .win32 0, 0, .ofSeconds 0⟩,
    ⟨.stopPending, 0, .win32 0, 2, .ofSeconds 10⟩,
    ⟨.stopped, 0, .win32 0, 0, .ofSeconds 0⟩]

/-- What is told at the end of one that could not begin to monitor. -/
def failed : StatusReport := ⟨.stopped, 0, .serviceSpecific 1, 0, .ofSeconds 0⟩

end StatusReport

open StatusReport (story failed)

variable {l : Launch} {refusal : Nat → Option String} {controls : Nat → List Control}
  {i : Interface} {early delivered : List Control}

/-- A service that the dispatcher runs, and that gets controls. -/
structure Launch.Registers (l : Launch) : Prop where
  dispatched : l.dispatcherFailure = none
  registered : l.registerFailure = none

/-- How far a service is: why it has failed, and what was told then, or that it has
succeeded, or that it is under way. -/
inductive Service.Stands (l : Launch) (i : Interface) (delivered : List Control) (s : Service) :
    Prop
  | undispatched {reason : String} (hdispatcher : l.dispatcherFailure = some reason)
      (hreports : s.reports = []) (hresult : s.result = some (.error (.dispatcher reason)))
  | unregistered {reason : String} (hdispatcher : l.dispatcherFailure = none)
      (hregister : l.registerFailure = some reason)
      (hreports : s.reports = []) (hresult : s.result = some (.error (.register reason)))
  | unreachable {e : Win32Error} (hregisters : l.Registers) (hconnect : (connect i).1 = .error e)
      (hreports : s.reports = [failed]) (hresult : s.result = some (.error (.connect e)))
  | unstarted {e : RunError} (hregisters : l.Registers) (hconnect : (connect i).1 = .ok ())
      (hfails : (assignment l i).Fails e)
      (hreports : s.reports = story.take 1 ++ [failed])
      (hresult : s.result = some (.error (.run e)))
  | served {outcome : StopOutcome} (hregisters : l.Registers) (hconnect : (connect i).1 = .ok ())
      (hstarts : ∀ e, ¬ (assignment l i).Fails e)
      (hreports : s.reports = story) (hresult : s.result = some (.ok ()))
      (hover : s.supervisor.progress = .over (.ok outcome))
      (hrequest : FirstAsks outcome.request delivered)
  | underWay {k : Nat} (hregisters : l.Registers) (hconnect : (connect i).1 = .ok ())
      (hfirst : 1 ≤ k) (hlast : k ≤ 3) (hreports : s.reports = story.take k)
      (hresult : s.result = none)

/-! ## The course of a service -/

/-- What may happen while a service's supervisor runs. -/
inductive Moment where
  /-- the manager sends a control -/
  | hears (c : Control)
  | load
  | start
  | receive
  | join
  | giveUp
  | monitor (b : Monitor.Act)

namespace Moment

/-- What it means for the supervisor. -/
def act? : Moment → Option (Supervisor.Act Interface)
  | hears c => (c.handle true).value.map .send
  | load => some .load
  | start => some .start
  | receive => some .receive
  | join => some .join
  | giveUp => some .giveUp
  | monitor b => some (.monitor b)

/-- The control that is sent. -/
def control? : Moment → Option Control
  | hears c => some c
  | _ => none

variable {m : Moment} {x : Supervisor.Act Interface}

theorem isCall_of_act? (h : m.act? = some x) : x.isCall = false ∧ x.isClose = false := by
  cases m with
  | hears c =>
    obtain ⟨request, -, rfl⟩ := Option.map_eq_some_iff.mp h
    exact ⟨rfl, rfl⟩
  | _ =>
    cases h
    exact ⟨rfl, rfl⟩

theorem sends_of_act? (h : m.act? = some x) :
    x.sends = m.control?.toList.filterMap Control.request? := by
  cases m with
  | hears c =>
    obtain ⟨request, hrequest, rfl⟩ := Option.map_eq_some_iff.mp h
    rw [StatusLine.value_handle] at hrequest
    simp [Supervisor.Act.sends, control?, hrequest]
  | _ =>
    cases h
    rfl

theorem request?_of_act?_eq_none (h : m.act? = none) :
    m.control?.toList.filterMap Control.request? = [] := by
  cases m with
  | hears c =>
    rw [act?, StatusLine.value_handle, Option.map_eq_none_iff] at h
    simp [control?, h]
  | _ => cases h

end Moment

namespace Service

/-- A supervisor at a moment, and the controls that were delivered up to then. -/
abbrev Moments : Type := Supervisor Interface StatusLine × List Control

/-- Goes on by one moment. -/
def attend (now : Moments) (m : Moment) : Moments :=
  let next := match m.act? with
    | some x => now.1.act peers x
    | none => now.1
  (next, now.2 ++ m.control?.toList ++ now.1.controller.host.arrivals next.controller.host)

/-- What the supervisor is given where controls have come already. -/
def given (l : Launch) (early : List Control) (i : Interface) : Assignment Interface :=
  { assignment l i with channel := ⟨early.filterMap Control.request?, 0, false⟩ }

/-- The supervisor of a service from its call on, and the controls delivered by then. -/
def attended (l : Launch) (early : List Control) (moments : List Moment) (s : Service) : Moments :=
  let called := s.supervisor.act peers (.call (.run (given l early s.interface)))
  moments.foldl attend
    (called, early ++ s.supervisor.controller.host.arrivals called.controller.host)

/-- A run of a service, up to some moment, and the controls delivered by then.  Controls come
between its registration and the run of its supervisor, while reports are made, and at any
other moment. -/
def course (l : Launch) (refusal : Nat → Option String) (controls : Nat → List Control)
    (i : Interface) (early : List Control) (moments : List Moment) : Service × List Control :=
  let s := begin false l (.new refusal controls) i
  if s.result.isSome then (s, early)
  else
    let last := attended l early moments s
    ({ s with supervisor := last.1 }.conclude, last.2)

/-! ## Before the supervisor runs -/

/-- A service that has begun and whose supervisor has not, with a line on which nothing was
told. -/
structure Ready (l : Launch) (line : StatusLine) (i : Interface) (s : Service) : Prop where
  registers : l.Registers
  connected : (connect i).1 = .ok ()
  result_eq : s.result = none
  untouched : s.supervisor.Untouched
  tidy : s.supervisor.Tidy StatusLine.reporter line false
  host_eq : s.supervisor.controller.host = line
  channel_eq : s.supervisor.channel = .empty

theorem ready_or_stands (l : Launch) (refusal : Nat → Option String)
    (controls : Nat → List Control) (i : Interface) (delivered : List Control) :
    Ready l (.new refusal controls) i (begin false l (.new refusal controls) i) ∨
      (begin false l (.new refusal controls) i).result.isSome = true ∧
        Stands l i delivered (begin false l (.new refusal controls) i) := by
  have hnew := Supervisor.tidy_new (σ := Interface) StatusLine.reporter (.new refusal controls)
    Controller.defaultGrace
  cases hdispatcher : l.dispatcherFailure with
  | some reason =>
    have hbegin : begin false l (.new refusal controls) i =
        ⟨[.dispatch l.name.text], i, .new (.new refusal controls),
          some (.error (.dispatcher reason))⟩ := by
      simp [begin, hdispatcher]
    rw [hbegin]
    exact Or.inr ⟨rfl, .undispatched hdispatcher rfl rfl⟩
  | none =>
    cases hregister : l.registerFailure with
    | some reason =>
      have hbegin : begin false l (.new refusal controls) i =
          fail (.register reason) ⟨[.dispatch l.name.text, .register l.name.text], i,
            .new (.new refusal controls), none⟩ := by
        simp [begin, hdispatcher, hregister]
      rw [hbegin]
      exact Or.inr ⟨rfl, .unregistered hdispatcher hregister rfl rfl⟩
    | none =>
      have hbegin : begin false l (.new refusal controls) i =
          reach l ⟨[.dispatch l.name.text, .register l.name.text], i,
            .new (.new refusal controls), none⟩ := by
        simp [begin, hdispatcher, hregister]
      rw [hbegin]
      obtain ⟨outcome, i', hconnect⟩ : ∃ outcome i', connect i = (outcome, i') := ⟨_, _, rfl⟩
      cases outcome with
      | error e =>
        simp only [reach, hconnect]
        exact Or.inr ⟨rfl, .unreachable ⟨hdispatcher, hregister⟩ (by rw [hconnect]) rfl rfl⟩
      | ok _ =>
        simp only [reach, hconnect]
        exact Or.inl ⟨⟨hdispatcher, hregister⟩, by rw [hconnect], rfl, ⟨rfl, rfl, rfl⟩,
          ⟨⟨hnew.controller.withLog _ _, rfl, hnew.fits⟩, rfl⟩, rfl, rfl⟩

/-! ## While the supervisor runs -/

variable {line : StatusLine} {s : Supervisor Interface StatusLine} {now : Moments} {m : Moment}

/-- The requests on the channel are those of the controls that were delivered. -/
structure Keeps (controls : Nat → List Control) (now : Moments) : Prop where
  opened : now.1.Open
  controls_eq : now.1.controller.host.controls = controls
  sent_eq : now.1.channel.sent = now.2.filterMap Control.request?

theorem Keeps.attend (h : Keeps controls now) (m : Moment) : Keeps controls (attend now m) := by
  simp only [Service.attend]
  cases hact : m.act? with
  | none =>
    refine ⟨h.opened, h.controls_eq, ?_⟩
    rw [StatusLine.arrivals_self, List.append_nil, List.filterMap_append,
      Moment.request?_of_act?_eq_none hact, List.append_nil]
    exact h.sent_eq
  | some x =>
    obtain ⟨hcall, hclose⟩ := Moment.isCall_of_act? hact
    have hhears := h.opened.act (p := peers) hcall hclose
    obtain ⟨hcontrols, hsent⟩ := StatusLine.arrivals_of_tells hhears.tells
    refine ⟨hhears.now, hcontrols.trans h.controls_eq, ?_⟩
    rw [hsent, h.sent_eq, Moment.sends_of_act? hact, List.filterMap_append,
      List.filterMap_append]

theorem Keeps.foldl (h : Keeps controls now) (moments : List Moment) :
    Keeps controls (moments.foldl Service.attend now) := by
  induction moments generalizing now with
  | nil => exact h
  | cons m moments ih => exact ih (h.attend m)

theorem follow_moments (moments : List Moment) (now : Moments) :
    (moments.foldl attend now).1 = now.1.follow peers (moments.filterMap Moment.act?) := by
  induction moments generalizing now with
  | nil => rfl
  | cons m moments ih =>
    rw [List.foldl_cons, ih, attend]
    cases hact : m.act? with
    | none => rw [List.filterMap_cons_none hact]
    | some x =>
      rw [List.filterMap_cons_some hact]
      rfl

section Attended

variable {service : Service} {moments : List Moment}

theorem attended_eq_follow (l : Launch) (early : List Control) (moments : List Moment)
    (service : Service) : (attended l early moments service).1 =
      (service.supervisor.act peers (.call (.run (given l early service.interface)))).follow peers
        (moments.filterMap Moment.act?) :=
  follow_moments moments (_, _)

theorem Ready.keeps (h : Ready l (.new refusal controls) i service) (early : List Control)
    (moments : List Moment) : Keeps controls (attended l early moments service) := by
  have hopen : service.supervisor.Open :=
    ⟨h.tidy.requests_eq, by rw [h.channel_eq]; rfl⟩
  have hrest : service.supervisor.atRest = true := by
    rw [Supervisor.atRest, h.untouched.progress_eq]
  have hhears := hopen.callRun (p := peers) hrest (given l early service.interface) rfl
  obtain ⟨hcontrols, hsent⟩ := StatusLine.arrivals_of_tells hhears.tells
  refine Keeps.foldl ⟨hhears.now, ?_, ?_⟩ moments
  · refine hcontrols.trans ?_
    rw [h.host_eq]
    rfl
  · rw [List.filterMap_append]
    simpa [given] using hsent

theorem Ready.sound (h : Ready l line i service) (early : List Control) (moments : List Moment) :
    ∃ outside, (attended l early moments service).1.Sound StatusLine.reporter line outside := by
  rw [attended_eq_follow]
  exact ⟨_, (h.tidy.toSound.act (p := peers) (.call (.run _))).follow _⟩

theorem Ready.runs (h : Ready l line i service) (early : List Control) (moments : List Moment) :
    (attended l early moments service).1.Runs manager (given l early service.interface) := by
  have hquiet : (moments.filterMap Moment.act?).any Supervisor.Act.isCall = false := by
    rw [List.any_eq_false]
    intro x hx
    obtain ⟨m, -, hact⟩ := List.mem_filterMap.mp hx
    simp [(Moment.isCall_of_act? hact).1]
  have hcalled := h.untouched.call (p := peers) h.tidy.toSound (given l early service.interface)
  rw [attended_eq_follow]
  exact hcalled.follow (h.tidy.toSound.act (p := peers) (.call (.run _))) rfl hquiet

end Attended

/-! ## When it is over -/

/-- A supervisor has told the beginning of the story that leads to its stage. -/
theorem sent_eq_take {outside : Bool}
    (h : s.Sound StatusLine.reporter (.new refusal controls) outside) :
    s.controller.host.sent = story.take s.controller.stage.rank := by
  rw [h.controller.host_eq, h.controller.reports_eq]
  cases s.controller.stage <;> rfl

theorem stands_underWay {service : Service} {outside : Bool} {stage : Stage}
    (hregisters : l.Registers) (hconnect : (connect i).1 = .ok ()) (hresult : service.result = none)
    (hsound : service.supervisor.Sound StatusLine.reporter (.new refusal controls) outside)
    (hstage : service.supervisor.controller.stage = stage) (hfirst : 1 ≤ stage.rank)
    (hlast : stage.rank ≤ 3) : Stands l i delivered service :=
  .underWay hregisters hconnect hfirst hlast (hstage ▸ sent_eq_take hsound) hresult

/-- A supervisor that could not begin to monitor has told one stage, and its service tells the
failure. -/
theorem stands_failed {service : Service} {outside : Bool} {e : RunError}
    (hregisters : l.Registers) (hconnect : (connect i).1 = .ok ())
    (hsound : service.supervisor.Sound StatusLine.reporter (.new refusal controls) outside)
    (hstage : service.supervisor.controller.stage = .startPending)
    (hfails : (assignment l i).Fails e) : Stands l i delivered (service.failOpenly (.run e)) := by
  refine .unstarted hregisters hconnect hfails ?_ rfl
  have hsent := sent_eq_take hsound
  rw [hstage] at hsent
  exact congrArg (· ++ [failed]) hsent

/-- The request that decides a run is that of the first control that has one. -/
theorem Keeps.request {request : Request} (h : Keeps controls (s, delivered))
    (hdecides : s.channel.Decides request) : FirstAsks request delivered := by
  rcases hdecides with hhead | ⟨-, hclosed, -⟩
  · rw [h.sent_eq, List.head?_filterMap] at hhead
    exact firstAsks_of_findSome? hhead
  · rw [h.opened.closed_eq] at hclosed
    cases hclosed

theorem stands_conclude {service : Service} {j : Interface} {outside : Bool}
    (hregisters : l.Registers) (hconnect : (connect i).1 = .ok ())
    (hresult : service.result = none)
    (hsound : s.Sound StatusLine.reporter (.new refusal controls) outside)
    (hruns : s.Runs manager (given l early j)) (hkeeps : Keeps controls (s, delivered)) :
    Stands l i delivered { service with supervisor := s }.conclude := by
  have hfits := hsound.fits
  obtain ⟨contacts, interface, idle, result⟩ := service
  cases hresult
  cases hruns with
  | @entered c ch hch =>
    have hstage : c.stage = .startPending := hfits
    exact stands_underWay hregisters hconnect rfl hsound hstage (by decide) (by decide)
  | @unreadable c ch e hstage hplan =>
    exact stands_failed hregisters hconnect hsound hstage (Or.inl ⟨e, hplan, rfl⟩)
  | @planned c ch plan hch hplan =>
    have hstage : c.stage = .startPending := hfits
    exact stands_underWay hregisters hconnect rfl hsound hstage (by decide) (by decide)
  | @unlaunched c ch plan reason hstage hplan hfailure =>
    exact stands_failed hregisters hconnect hsound hstage
      (Or.inr ⟨plan, reason, hplan, hfailure, rfl⟩)
  | @waiting c t ch plan hch ht =>
    have hstage : c.stage = .running := hfits
    exact stands_underWay hregisters hconnect rfl hsound hstage (by decide) (by decide)
  | @joining c t ch plan request hsent hdecides ht =>
    have hstage : c.stage = .stopPending := hfits
    exact stands_underWay hregisters hconnect rfl hsound hstage (by decide) (by decide)
  | @returned c t ch plan request exit hstage hsent hdecides ht hexit =>
    have hstarts : ∀ e, ¬ (assignment l i).Fails e := by
      rintro e (⟨x, hx, -⟩ | ⟨plan', reason, -, hreason, -⟩)
      · exact absurd (ht.plan_eq.symm.trans hx) (by simp)
      · exact absurd (ht.spawned.symm.trans hreason) (by simp)
    have hreports := sent_eq_take hsound
    rw [hstage] at hreports
    exact .served hregisters hconnect hstarts hreports rfl rfl (hkeeps.request hdecides)

/-! ## The main statement -/

/-- What the manager is told of a service, and what comes of it. -/
structure Serves (l : Launch) (i : Interface) (delivered : List Control) (s : Service) : Prop where
  /-- one of four stories is told, by how far the service comes; while it is under way, the
  beginning of the last one -/
  stands : s.Stands l i delivered
  /-- nothing is told of a service that gets no controls, and it fails -/
  silent : ¬ l.Registers → s.reports = [] ∧ ∃ e, s.result = some (.error e)
  /-- of any other it is told once that it has stopped, last of all, and how -/
  stopped : l.Registers → ∀ outcome, s.result = some outcome →
    ∃ before last, s.reports = before ++ [last] ∧ last.stage = .stopped ∧
      (∀ r ∈ before, r.stage ≠ .stopped) ∧ (outcome = .ok () ↔ last.exit = .win32 0)
  unstopped : s.result = none → ∀ r ∈ s.reports, r.stage ≠ .stopped
  /-- it can be stopped (bit 1) and shut down (bit 4) in one stage only -/
  accepts : ∀ r ∈ s.reports, r.accepts = if r.stage = .running then 1 + 4 else 0
  /-- checkpoints tell of progress, and only where something is pending -/
  progresses : s.reports.Pairwise fun r r' =>
    isPending r.stage = true → isPending r'.stage = true → r.checkpoint < r'.checkpoint
  settled : ∀ r ∈ s.reports, isPending r.stage = false → r.checkpoint = 0
  /-- what it was stopped by is the first control that asks for that -/
  request : s.result = some (.ok ()) → ∃ outcome, s.supervisor.progress = .over (.ok outcome) ∧
    FirstAsks outcome.request delivered
  /-- and such a control does stop it -/
  ends : s.result = none → (∃ c ∈ delivered, ∃ request, c.Asks request) →
    s.supervisor.CanReturn peers

/-- Whatever story is told, its reports are among these. -/
theorem Stands.reports_sublist {s : Service} (h : s.Stands l i delivered) :
    s.reports.Sublist (story ++ [failed]) := by
  cases h with
  | undispatched _ hreports =>
    rw [hreports]
    exact List.nil_sublist _
  | unregistered _ _ hreports =>
    rw [hreports]
    exact List.nil_sublist _
  | unreachable _ _ hreports =>
    rw [hreports]
    exact List.sublist_append_right story [failed]
  | unstarted _ _ _ hreports =>
    rw [hreports]
    exact (List.take_sublist 1 story).append (List.Sublist.refl _)
  | served _ _ _ hreports =>
    rw [hreports]
    exact List.sublist_append_left story [failed]
  | underWay _ _ _ _ hreports =>
    rw [hreports]
    exact (List.take_sublist _ story).trans (List.sublist_append_left story [failed])

theorem Stands.silent {s : Service} (h : s.Stands l i delivered) (hregisters : ¬ l.Registers) :
    s.reports = [] ∧ ∃ e, s.result = some (.error e) := by
  cases h with
  | undispatched _ hreports hresult => exact ⟨hreports, _, hresult⟩
  | unregistered _ _ hreports hresult => exact ⟨hreports, _, hresult⟩
  | unreachable h => exact absurd h hregisters
  | unstarted h => exact absurd h hregisters
  | served h => exact absurd h hregisters
  | underWay h => exact absurd h hregisters

theorem Stands.stopped {s : Service} (h : s.Stands l i delivered) (hregisters : l.Registers)
    {outcome : Except ServiceError Unit} (houtcome : s.result = some outcome) :
    ∃ before last, s.reports = before ++ [last] ∧ last.stage = .stopped ∧
      (∀ r ∈ before, r.stage ≠ .stopped) ∧ (outcome = .ok () ↔ last.exit = .win32 0) := by
  cases h with
  | undispatched hdispatcher =>
    rw [hregisters.dispatched] at hdispatcher
    cases hdispatcher
  | unregistered _ hregister =>
    rw [hregisters.registered] at hregister
    cases hregister
  | unreachable _ _ hreports hresult =>
    rw [hresult] at houtcome
    cases houtcome
    exact ⟨[], failed, hreports, rfl, by simp, by simp [failed]⟩
  | unstarted _ _ _ hreports hresult =>
    rw [hresult] at houtcome
    cases houtcome
    exact ⟨story.take 1, failed, hreports, rfl, by decide, by simp [failed]⟩
  | served _ _ _ hreports hresult =>
    rw [hresult] at houtcome
    cases houtcome
    exact ⟨story.take 3, _, hreports, rfl, by decide, by simp⟩
  | underWay _ _ _ _ _ hresult =>
    rw [hresult] at houtcome
    cases houtcome

theorem Stands.serves {s : Service} (h : s.Stands l i delivered)
    (hends : s.result = none → (∃ c ∈ delivered, ∃ request, c.Asks request) →
      s.supervisor.CanReturn peers) : s.Serves l i delivered where
  stands := h
  silent := h.silent
  stopped := fun hregisters _ => h.stopped hregisters
  unstopped := by
    intro hresult r hr
    cases h with
    | @underWay k _ _ _ hlast hreports _ =>
      rw [hreports] at hr
      have hmem : r ∈ story.take 3 := (List.take_sublist_take_left hlast).subset hr
      have hall : ∀ r ∈ story.take 3, r.stage ≠ .stopped := by decide
      exact hall r hmem
    | _ => simp_all
  accepts := by
    have hall : ∀ r ∈ story ++ [failed],
        r.accepts = if r.stage = .running then 1 + 4 else 0 := by decide
    exact fun r hr => hall r (h.reports_sublist.subset hr)
  progresses := by
    have hall : (story ++ [failed]).Pairwise fun r r' =>
        isPending r.stage = true → isPending r'.stage = true → r.checkpoint < r'.checkpoint := by
      decide
    exact hall.sublist h.reports_sublist
  settled := by
    have hall : ∀ r ∈ story ++ [failed], isPending r.stage = false → r.checkpoint = 0 := by
      decide
    exact fun r hr => hall r (h.reports_sublist.subset hr)
  request := by
    intro hresult
    cases h with
    | served _ _ _ _ _ hover hrequest => exact ⟨_, hover, hrequest⟩
    | _ => simp_all
  ends := hends

theorem conclude_of_underWay {service : Service} (h : service.conclude.result = none)
    (hresult : service.result = none) : service.conclude = service := by
  obtain ⟨contacts, interface, supervisor, result⟩ := service
  cases hresult
  simp only [conclude] at h ⊢
  split at h
  · cases h
  · cases h
  · rfl

/-- Whatever the settings are and whatever fails, whichever reports are refused, and whatever
controls come and when: a service is run as it should be. -/
theorem serves_course (l : Launch) (refusal : Nat → Option String)
    (controls : Nat → List Control) (i : Interface) (early : List Control)
    (moments : List Moment) :
    (course l refusal controls i early moments).1.Serves l i
      (course l refusal controls i early moments).2 := by
  rcases ready_or_stands l refusal controls i early with hready | ⟨hended, hstands⟩
  · simp only [course]
    generalize begin false l (.new refusal controls) i = service at hready ⊢
    rw [if_neg (by simp [hready.result_eq])]
    obtain ⟨outside, hsound⟩ := hready.sound early moments
    have hruns := hready.runs early moments
    have hkeeps := hready.keeps early moments
    refine (stands_conclude hready.registers hready.connected hready.result_eq hsound hruns
      hkeeps).serves ?_
    intro hresult hasked
    rw [conclude_of_underWay hresult hready.result_eq]
    refine hruns.canReturn hsound rfl (Or.inl ?_)
    rw [hkeeps.sent_eq]
    obtain ⟨c, hc, request, hasks⟩ := hasked
    have hrequest := Control.request?_eq_some_iff.mpr hasks
    exact List.ne_nil_of_mem (List.mem_filterMap.mpr ⟨c, hc, hrequest⟩)
  · simp only [course]
    rw [if_pos hended]
    refine hstands.serves fun hresult => ?_
    rw [hresult] at hended
    cases hended

/-- A report is refused and three stops are asked for, while the monitor is never waited for
to the end. -/
example :
    let l : Launch := ⟨⟨"svc", by decide +kernel, by decide +kernel⟩, "1", "",
      pure (.ok ⟨["a"], .ofSeconds 60, .ofSeconds 0⟩), none, none, none⟩
    let refusal : Nat → Option String := fun n => if n = 2 then some "busy" else none
    let controls : Nat → List Control := fun n =>
      if n = 2 then [.interrogate, .preshutdown, .stop] else []
    let c := course l refusal controls (.new fun _ _ => .succeeds 4) []
      [.load, .start, .receive, .hears .stop, .giveUp]
    c.1.reports = story ∧ c.1.result = some (.ok ()) ∧
      c.1.supervisor.progress = .over (.ok ⟨.shutdown, .timedOut⟩) ∧
      c.2 = [.interrogate, .preshutdown, .stop, .stop] :=
  ⟨rfl, rfl, rfl, rfl⟩

/-! ## Runs in which controls come at certain points only -/

/-- One supervisor becomes the other in some moments. -/
def Reaches (s s' : Supervisor Interface StatusLine) : Prop :=
  ∃ moments : List Moment, s' = s.follow peers (moments.filterMap Moment.act?)

variable {s' s'' : Supervisor Interface StatusLine}

theorem Reaches.refl (s : Supervisor Interface StatusLine) : Reaches s s := ⟨[], rfl⟩

theorem Reaches.trans (h : Reaches s s') (h' : Reaches s' s'') : Reaches s s'' := by
  obtain ⟨before, rfl⟩ := h
  obtain ⟨after, rfl⟩ := h'
  exact ⟨before ++ after, by rw [List.filterMap_append, Supervisor.follow, Supervisor.follow,
    Supervisor.follow, List.foldl_append]⟩

theorem reaches_act (m : Moment) {x : Supervisor.Act Interface} (hact : m.act? = some x)
    (s : Supervisor Interface StatusLine) : Reaches s (s.act peers x) :=
  ⟨[m], by rw [List.filterMap_cons_some hact]; rfl⟩

/-- Controls that come with a query are heard. -/
theorem reaches_happens (atQuery : Nat → List Control) (t : Thread Interface)
    (s : Supervisor Interface StatusLine) :
    Reaches s (s.follow peers (((surroundings atQuery).happens t).map Happening.act)) := by
  simp only [surroundings]
  split
  · next n _ =>
    refine ⟨(atQuery n).map .hears, ?_⟩
    rw [List.filterMap_map, List.map_filterMap]
    congr 2
    funext c
    simp [Moment.act?, Function.comp_def, Option.map_map, Happening.act]
  · exact .refl s

theorem reaches_settle (atQuery : Nat → List Control) (fuel : Nat)
    (s : Supervisor Interface StatusLine) :
    Reaches s (s.settle peers (surroundings atQuery) fuel) := by
  induction fuel generalizing s with
  | zero => exact .refl s
  | succ fuel ih =>
    rw [Supervisor.settle]
    split
    · exact .refl s
    · next t _ =>
      dsimp only
      generalize hnow : (if t.isCalling then
        s.follow peers (((surroundings atQuery).happens t).map Happening.act) else s) = now
      have hhappens : Reaches s now := by
        rw [← hnow]
        split
        · exact reaches_happens atQuery t s
        · exact .refl s
      refine hhappens.trans ?_
      split
      · exact .refl _
      · next b _ => exact (reaches_act (.monitor b) rfl now).trans (ih _)

theorem reaches_run (atQuery : Nat → List Control) (fuel : Nat) (a : Assignment Interface)
    (s : Supervisor Interface StatusLine) :
    Reaches (s.act peers (.call (.run a))) (s.run peers a (surroundings atQuery) fuel) := by
  have hbegin : Reaches (s.act peers (.call (.run a))) (s.begin peers a) :=
    ⟨[.load, .start], rfl⟩
  have hreceive := (hbegin.trans (reaches_settle atQuery fuel _)).trans
    (reaches_act .receive rfl _)
  simp only [Supervisor.run]
  generalize ((s.begin peers a).settle peers (surroundings atQuery) fuel).act peers .receive = now
    at hreceive ⊢
  split
  · refine (hreceive.trans (reaches_settle atQuery fuel now)).trans ?_
    simp only [Supervisor.awaitMonitor]
    split
    · exact reaches_act .join rfl _
    · exact reaches_act .giveUp rfl _
  · exact hreceive

/-- A run in which controls come with reports and with queries of the monitor is one of
these. -/
theorem exists_course_run (l : Launch) (refusal : Nat → Option String)
    (controls atQuery : Nat → List Control) (fuel : Nat) (i : Interface) :
    ∃ moments, run false l (.new refusal controls) (surroundings atQuery) fuel i =
      (course l refusal controls i [] moments).1 := by
  simp only [run, course]
  generalize begin false l (.new refusal controls) i = service
  obtain ⟨moments, hmoments⟩ := reaches_run atQuery fuel (assignment l service.interface)
    service.supervisor
  refine ⟨moments, ?_⟩
  cases hresult : service.result with
  | some outcome => rfl
  | none =>
    have hattended : (attended l [] moments service).1 =
        service.supervisor.run peers (assignment l service.interface) (surroundings atQuery) fuel :=
      (attended_eq_follow l [] moments service).trans hmoments.symm
    simp [hattended]

end Service

end ServiceSupervisor.Scm
