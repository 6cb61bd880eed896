import ServiceSupervisor.Proofs.Supervisor.Stages
import ServiceSupervisor.Service.Script

/-!
  Proofs/Supervisor/Run.lean --- a run of a supervisor, from its call to its return.

  A run that cannot load its plan returns before anything is watched; any other waits
  for the first request, however many follow, and stops.  `Runs` follows it through its
  steps, while the monitor works and others send requests or set the cancellation.
-/

set_option autoImplicit false

namespace ServiceSupervisor

open Monitor (Thread Exit Result rounds act_of_result? outcome?_of_result?)

variable {σ ρ : Type}

/-! ## What becomes of a channel -/

namespace Channel

variable {c c' : Channel} {request : Request}

/-- More may be sent on a channel as long as it is not closed. -/
structure Grows (c c' : Channel) : Prop where
  taken_eq : c'.taken = c.taken
  sent_prefix : c.sent <+: c'.sent
  of_closed : c.closed = true → c'.closed = true ∧ c'.sent = c.sent

theorem grows_send (c : Channel) (requests : List Request) : c.Grows (c.send requests) := by
  cases hclosed : c.closed with
  | true =>
    rw [send, if_pos hclosed]
    exact ⟨rfl, List.prefix_rfl, fun h => ⟨h, rfl⟩⟩
  | false =>
    rw [send, if_neg (by simp [hclosed])]
    exact ⟨rfl, List.prefix_append _ _, by simp [hclosed]⟩

theorem grows_close (c : Channel) : c.Grows { c with closed := true } :=
  ⟨rfl, List.prefix_rfl, fun _ => ⟨rfl, rfl⟩⟩

theorem Grows.refl (c : Channel) : c.Grows c := ⟨rfl, List.prefix_rfl, fun h => ⟨h, rfl⟩⟩

theorem Grows.trans {c'' : Channel} (h : c.Grows c') (h' : c'.Grows c'') : c.Grows c'' where
  taken_eq := h'.taken_eq.trans h.taken_eq
  sent_prefix := h.sent_prefix.trans h'.sent_prefix
  of_closed := by
    intro hclosed
    obtain ⟨hclosed', hsent⟩ := h.of_closed hclosed
    obtain ⟨hclosed'', hsent'⟩ := h'.of_closed hclosed'
    exact ⟨hclosed'', hsent'.trans hsent⟩

/-- The request that was sent first, or the one that stands for none being sent. -/
def Decides (c : Channel) (request : Request) : Prop :=
  c.sent.head? = some request ∨ c.sent = [] ∧ c.closed = true ∧ request = .stop

/-- Later requests change nothing. -/
theorem Decides.of_grows (h : c.Decides request) (hgrows : c.Grows c') : c'.Decides request := by
  rcases h with hhead | ⟨hnone, hclosed, hstop⟩
  · obtain ⟨rest, hsent⟩ := List.head?_eq_some_iff.mp hhead
    obtain ⟨more, hmore⟩ := hgrows.sent_prefix
    left
    rw [← hmore, hsent]
    rfl
  · obtain ⟨hclosed', hsent⟩ := hgrows.of_closed hclosed
    exact Or.inr ⟨hsent.trans hnone, hclosed', hstop⟩

theorem sent_eq_nil_of_next? (htaken : c.taken = 0) (h : c.next? = none) : c.sent = [] := by
  rwa [next?, htaken, ← List.head?_eq_getElem?, List.head?_eq_none_iff] at h

theorem decides_of_next? (htaken : c.taken = 0) (h : c.next? = some request) :
    c.Decides request := by
  rw [next?, htaken, ← List.head?_eq_getElem?] at h
  exact Or.inl h

theorem decides_of_closed (htaken : c.taken = 0) (h : c.next? = none) (hclosed : c.closed = true) :
    c.Decides .stop :=
  Or.inr ⟨sent_eq_nil_of_next? htaken h, hclosed, rfl⟩

/-- Whoever waits for a request need not wait any longer. -/
def Ready (c : Channel) : Prop := c.sent ≠ [] ∨ c.closed = true

theorem Ready.of_grows (h : c.Ready) (hgrows : c.Grows c') : c'.Ready := by
  rcases h with hsent | hclosed
  · obtain ⟨more, hmore⟩ := hgrows.sent_prefix
    exact Or.inl (hmore ▸ List.append_ne_nil_of_left_ne_nil hsent more)
  · exact Or.inr (hgrows.of_closed hclosed).1

theorem Ready.closed_of_next? (h : c.Ready) (htaken : c.taken = 0) (hnext : c.next? = none) :
    c.closed = true :=
  h.resolve_left fun hsent => hsent (sent_eq_nil_of_next? htaken hnext)

end Channel

/-! ## How far a run is -/

namespace Supervisor

/-- A thread that watches for a run, by the plan that the run has loaded. -/
structure Watches (m : Manager σ) (a : Assignment σ) (plan : WatchPlan) (t : Thread σ) : Prop where
  plan_eq : a.plan.value = .ok plan
  spawned : a.spawnFailure = none
  keeps : t.Keeps m plan a.host

/-- Where a supervisor may be once it was called to make a run. -/
inductive Runs (m : Manager σ) (a : Assignment σ) : Supervisor σ ρ → Prop
  | entered {c : Controller ρ} {ch : Channel} (hch : a.channel.Grows ch) :
      Runs m a ⟨c, none, ch, .entered a⟩
  | unreadable {c : Controller ρ} {ch : Channel} {e : Settings.Error}
      (hstage : c.stage = .startPending) (hplan : a.plan.value = .error e) :
      Runs m a ⟨c, none, ch, .over (.error (.settings e))⟩
  | planned {c : Controller ρ} {ch : Channel} {plan : WatchPlan} (hch : a.channel.Grows ch)
      (hplan : a.plan.value = .ok plan) : Runs m a ⟨c, none, ch, .planned a plan⟩
  | unlaunched {c : Controller ρ} {ch : Channel} {plan : WatchPlan} {reason : String}
      (hstage : c.stage = .startPending) (hplan : a.plan.value = .ok plan)
      (hfailure : a.spawnFailure = some reason) :
      Runs m a ⟨c, none, ch, .over (.error (.lifecycle (.spawn reason)))⟩
  | waiting {c : Controller ρ} {t : Thread σ} {ch : Channel} {plan : WatchPlan}
      (hch : a.channel.Grows ch) (ht : Watches m a plan t) : Runs m a ⟨c, some t, ch, .waiting⟩
  | joining {c : Controller ρ} {t : Thread σ} {ch : Channel} {plan : WatchPlan} {request : Request}
      (hsent : a.channel.sent <+: ch.sent) (hdecides : ch.Decides request)
      (ht : Watches m a plan t) : Runs m a ⟨c, some t, ch, .joining request⟩
  | returned {c : Controller ρ} {t : Thread σ} {ch : Channel} {plan : WatchPlan} {request : Request}
      {exit : Exit} (hstage : c.stage = .stopped) (hsent : a.channel.sent <+: ch.sent)
      (hdecides : ch.Decides request) (ht : Watches m a plan t)
      (hexit : exit = .timedOut ∨ ∃ result, t.result? = some result ∧ exit = .ofResult result) :
      Runs m a ⟨c, some t, ch, .over (.ok ⟨request, exit⟩)⟩

variable {p : Peers σ ρ} {m : Manager σ} {r : Reporter ρ} {host : ρ} {outside : Bool}
  {s : Supervisor σ ρ} {a : Assignment σ}

/-- What is sent, and what is done to the controller but for its stage, leaves a run
where it is. -/
theorem Runs.aside (h : s.Runs m a) {c : Controller ρ} {ch : Channel}
    (hstage' : c.stage = s.controller.stage) (hgrows : s.channel.Grows ch) :
    Runs m a { s with controller := c, channel := ch } := by
  cases h with
  | entered hch => exact .entered (hch.trans hgrows)
  | unreadable hstage hplan => exact .unreadable (hstage'.trans hstage) hplan
  | planned hch hplan => exact .planned (hch.trans hgrows) hplan
  | unlaunched hstage hplan hfailure => exact .unlaunched (hstage'.trans hstage) hplan hfailure
  | waiting hch ht => exact .waiting (hch.trans hgrows) ht
  | joining hsent hdecides ht =>
    exact .joining (hsent.trans hgrows.sent_prefix) (hdecides.of_grows hgrows) ht
  | returned hstage hsent hdecides ht hexit =>
    exact .returned (hstage'.trans hstage) (hsent.trans hgrows.sent_prefix)
      (hdecides.of_grows hgrows) ht hexit

theorem Watches.act {plan : WatchPlan} {t : Thread σ} (h : Watches m a plan t) (cancelled : Bool)
    (b : Monitor.Act) : Watches m a plan (t.act m cancelled b) :=
  ⟨h.plan_eq, h.spawned, h.keeps.act cancelled b⟩

theorem Runs.monitor (h : s.Runs m a) (cancelled : Bool) (b : Monitor.Act) :
    Runs m a { s with monitor := s.monitor.map (Thread.act m cancelled b) } := by
  cases h with
  | entered hch => exact .entered hch
  | unreadable hstage hplan => exact .unreadable hstage hplan
  | planned hch hplan => exact .planned hch hplan
  | unlaunched hstage hplan hfailure => exact .unlaunched hstage hplan hfailure
  | waiting hch ht => exact .waiting hch (ht.act cancelled b)
  | joining hsent hdecides ht => exact .joining hsent hdecides (ht.act cancelled b)
  | returned hstage hsent hdecides ht hexit =>
    refine .returned hstage hsent hdecides (ht.act cancelled b) (hexit.imp id ?_)
    rintro ⟨result, hresult, rfl⟩
    exact ⟨result, by rw [act_of_result? hresult, hresult], rfl⟩

/-! ## The steps of a run -/

theorem Runs.load (hs : s.Sound r host outside) {a' : Assignment σ}
    (hp : s.progress = .entered a') (h : s.Runs m a) : (s.load a').Runs m a := by
  cases h with
  | entered hch =>
    cases hp
    have hstage := hs.fits
    simp only [Supervisor.load]
    split
    · next e hplan => exact .unreadable hstage hplan
    · next plan hplan => exact .planned hch hplan
  | _ => cases hp

theorem Runs.start (hs : s.Sound r host outside) {a' : Assignment σ} {plan : WatchPlan}
    (hp : s.progress = .planned a' plan) (h : s.Runs m a) :
    (proceed .waiting (s.launch r a'.spawnFailure plan a'.host)).Runs m a := by
  cases h with
  | @planned c ch plan hch hplan =>
    cases hp
    have hstage := hs.fits
    rcases exists_launch hs hstage a.spawnFailure plan a.host .waiting with
      ⟨reason, hfailure, hlaunch⟩ | ⟨hfailure, c', hlaunch, -⟩
    · rw [hlaunch]
      exact .unlaunched hstage hplan hfailure
    · rw [hlaunch]
      exact .waiting (hch.trans (Channel.grows_send _ _))
        ⟨hplan, hfailure, Thread.keeps_launch m plan a.host⟩
  | _ => cases hp

theorem Runs.receive (hs : s.Sound r host outside) (hp : s.progress = .waiting)
    (htaken : a.channel.taken = 0) (h : s.Runs m a) : (s.receive r).Runs m a := by
  cases h with
  | @waiting c t ch plan hch ht =>
    have hstage := hs.fits
    have hnow : ch.taken = 0 := hch.taken_eq.trans htaken
    simp only [Supervisor.receive]
    split
    · next request hnext =>
      obtain ⟨c', hproceed, -⟩ := exists_proceed (.joining request)
        ((hs.withChannel ch.take).controller.beginStop request) hstage
      rw [Supervisor.beginStop, hproceed]
      have hfirst : ch.Decides request := Channel.decides_of_next? hnow hnext
      have hdecides : ch.take.Decides request := hfirst
      have hgrows := Channel.grows_send ch.take c'.requests
      exact .joining (hch.sent_prefix.trans hgrows.sent_prefix) (hdecides.of_grows hgrows) ht
    · next hnext =>
      split
      · next hclosed =>
        obtain ⟨c', hproceed, -⟩ := exists_proceed (.joining .stop)
          ((hs.note .warn "control channel closed; stopping").controller.beginStop .stop) hstage
        rw [Supervisor.beginStop, hproceed]
        have hdecides : ch.Decides .stop := Channel.decides_of_closed hnow hnext hclosed
        have hgrows := Channel.grows_send ch c'.requests
        exact .joining (hch.sent_prefix.trans hgrows.sent_prefix) (hdecides.of_grows hgrows) ht
      · exact .waiting hch ht
  | _ => cases hp

theorem Runs.complete (hs : s.Sound r host outside) {request : Request} {exit : Exit}
    (hp : s.progress = .joining request) (hexit : s.Answers exit) (h : s.Runs m a) :
    (s.complete r request exit).Runs m a := by
  have hstage := (hs.watching_of_joining hp).1
  cases h with
  | @joining c t ch plan request hsent hdecides ht =>
    cases hp
    obtain ⟨c', hproceed, hstopped⟩ := exists_proceed (.over (.ok ⟨request, exit⟩))
      (hs.controller.finishStop exit hstage) hstage
    rw [Supervisor.complete, Supervisor.finishStop, hproceed]
    have hgrows := Channel.grows_send ch c'.requests
    refine .returned hstopped (hsent.trans hgrows.sent_prefix) (hdecides.of_grows hgrows) ht ?_
    rcases hexit with rfl | ⟨t', result, ht', hresult, rfl⟩
    · exact Or.inl rfl
    · cases ht'
      exact Or.inr ⟨result, hresult, rfl⟩
  | _ => cases hp

/-- Whether the controller is called. -/
def Act.isCall : Act σ → Bool
  | .call _ => true
  | _ => false

theorem Runs.act (hs : s.Sound p.reporter host outside) (htaken : a.channel.taken = 0)
    (h : s.Runs p.manager a) {x : Act σ} (hx : x.isCall = false) :
    (s.act p x).Runs p.manager a := by
  cases x with
  | call o => cases hx
  | load =>
    simp only [Supervisor.act]
    split
    · next a' hp => exact h.load hs hp
    · exact h
  | start =>
    simp only [Supervisor.act]
    split
    · next a' plan hp => exact h.start hs hp
    · exact h
  | receive =>
    simp only [Supervisor.act]
    split
    · next hp => exact h.receive hs hp htaken
    · exact h
  | join =>
    simp only [Supervisor.act]
    split
    · next request exit hp hexit => exact h.complete hs hp (hs.answers_of_exit? hp hexit)
    · exact h
  | giveUp =>
    simp only [Supervisor.act]
    split
    · next request hp =>
      split
      · exact h.complete hs hp (Or.inl rfl)
      · exact h
    · exact h
  | monitor b => exact h.monitor s.controller.cancelled b
  | cancel => exact h.aside rfl (.refl _)
  | send request => exact h.aside rfl (Channel.grows_send _ _)
  | close => exact h.aside rfl (Channel.grows_close _)

theorem Runs.follow (hs : s.Sound p.reporter host outside) (htaken : a.channel.taken = 0)
    (h : s.Runs p.manager a) {during : List (Act σ)} (hduring : during.any Act.isCall = false) :
    (s.follow p during).Runs p.manager a := by
  induction during generalizing s outside with
  | nil => exact h
  | cons x during ih =>
    rw [List.any_cons, Bool.or_eq_false_iff] at hduring
    exact ih (hs.act x) (h.act hs htaken hduring.1) hduring.2

/-! ## The return of a run -/

/-- A supervisor whose operation can come to its end. -/
def CanReturn (p : Peers σ ρ) (s : Supervisor σ ρ) : Prop :=
  ∃ more outcome, (s.follow p more).progress = .over outcome

theorem CanReturn.of_act (x : Act σ) (h : (s.act p x).CanReturn p) : s.CanReturn p := by
  obtain ⟨more, outcome, hover⟩ := h
  exact ⟨x :: more, outcome, hover⟩

theorem canReturn_of_joining (hs : s.Sound p.reporter host outside) {request : Request}
    (hp : s.progress = .joining request) : s.CanReturn p := by
  obtain ⟨more, exit, hover⟩ := hs.exists_answer hp
  exact ⟨more, _, hover⟩

theorem canReturn_of_waiting (hs : s.Sound p.reporter host outside) (hp : s.progress = .waiting)
    (htaken : s.channel.taken = 0) (hready : s.channel.Ready) : s.CanReturn p := by
  refine .of_act .receive ?_
  have hreceive : s.act p .receive = s.receive p.reporter := by simp only [Supervisor.act, hp]
  rcases hs.receive_cases hp with ⟨-, hnext, hopen⟩ | ⟨request, hjoining⟩
  · rw [hready.closed_of_next? htaken hnext] at hopen
    cases hopen
  · exact canReturn_of_joining (hs.act .receive) (hreceive ▸ hjoining)

theorem canReturn_of_planned (hs : s.Sound p.reporter host outside) {plan : WatchPlan}
    (hp : s.progress = .planned a plan) (htaken : s.channel.taken = 0)
    (hready : s.channel.Ready) : s.CanReturn p := by
  refine .of_act .start ?_
  have hstage := hs.fits
  rw [hp] at hstage
  have hnow := hs.act .start
  have hstart : s.act p .start =
      proceed .waiting (s.launch p.reporter a.spawnFailure plan a.host) := by
    simp only [Supervisor.act, hp]
  rcases exists_launch hs hstage a.spawnFailure plan a.host .waiting with
    ⟨reason, -, hlaunch⟩ | ⟨-, c, hlaunch, -⟩
  · rw [hstart, hlaunch]
    exact ⟨[], _, rfl⟩
  · rw [hstart, hlaunch] at hnow ⊢
    have hgrows := Channel.grows_send s.channel c.requests
    exact canReturn_of_waiting hnow rfl (hgrows.taken_eq.trans htaken) (hready.of_grows hgrows)

theorem canReturn_of_entered (hs : s.Sound p.reporter host outside)
    (hp : s.progress = .entered a) (htaken : s.channel.taken = 0)
    (hready : s.channel.Ready) : s.CanReturn p := by
  refine .of_act .load ?_
  have hnow := hs.act .load
  have hload : s.act p .load = s.load a := by simp only [Supervisor.act, hp]
  rw [hload] at hnow ⊢
  cases hplan : a.plan.value with
  | error e => exact ⟨[], .error (.settings e), by simp [Supervisor.follow, Supervisor.load, hplan]⟩
  | ok plan =>
    have hprogress : (s.load a).progress = .planned a plan := by simp [Supervisor.load, hplan]
    have hchannel : (s.load a).channel = s.channel := by
      simp [Supervisor.load, hplan, Supervisor.note]
    rw [← hchannel] at htaken hready
    exact canReturn_of_planned hnow hprogress htaken hready

/-- A run comes to its end if there is a request, or if there will never be one. -/
theorem Runs.canReturn (hs : s.Sound p.reporter host outside) (htaken : a.channel.taken = 0)
    (h : s.Runs m a) (hready : s.channel.Ready) : s.CanReturn p := by
  cases h with
  | entered hch => exact canReturn_of_entered hs rfl (hch.taken_eq.trans htaken) hready
  | planned hch hplan => exact canReturn_of_planned hs rfl (hch.taken_eq.trans htaken) hready
  | waiting hch ht => exact canReturn_of_waiting hs rfl (hch.taken_eq.trans htaken) hready
  | joining hsent hdecides ht => exact canReturn_of_joining hs rfl
  | _ => exact ⟨[], _, rfl⟩

/-! ## The call of a run -/

/-- Before a controller is called for the first time, others can only cancel the
monitor to come. -/
structure Untouched (s : Supervisor σ ρ) : Prop where
  progress_eq : s.progress = .idle
  monitor_eq : s.monitor = none
  stage_eq : s.controller.stage = .initializing

theorem Untouched.act (h : s.Untouched) {x : Act σ} (hx : x.isCall = false) :
    (s.act p x).Untouched := by
  obtain ⟨hprogress, hmonitor, hstage⟩ := h
  cases x with
  | call o => cases hx
  | cancel => exact ⟨hprogress, hmonitor, hstage⟩
  | send request => exact ⟨hprogress, hmonitor, hstage⟩
  | close => exact ⟨hprogress, hmonitor, hstage⟩
  | monitor b => exact ⟨hprogress, by simp [Supervisor.act, hmonitor], hstage⟩
  | _ => constructor <;> simp [Supervisor.act, hprogress, hmonitor, hstage]

theorem Untouched.follow (h : s.Untouched) {before : List (Act σ)}
    (hbefore : before.any Act.isCall = false) : (s.follow p before).Untouched := by
  induction before generalizing s with
  | nil => exact h
  | cons x before ih =>
    rw [List.any_cons, Bool.or_eq_false_iff] at hbefore
    exact ih (h.act hbefore.1) hbefore.2

theorem Untouched.call (h : s.Untouched) (hs : s.Sound p.reporter host outside)
    (a : Assignment σ) : (s.act p (.call (.run a))).Runs p.manager a := by
  obtain ⟨c, hproceed, -⟩ := exists_proceed (.entered a)
    ((hs.withChannel a.channel).controller.enter) h.stage_eq
  have hcall : s.act p (.call (.run a)) =
      ⟨{ c with requests := [] }, none, a.channel.send c.requests, .entered a⟩ := by
    rw [Supervisor.act, if_pos (by simp [atRest, h.progress_eq])]
    exact hproceed.trans (by simp [withController, h.monitor_eq])
  rw [hcall]
  exact .entered (Channel.grows_send _ _)

/-! ## What is called after the end -/

@[simp] theorem monitor_proceed (next : Progress σ)
    (step : Except LifecycleError Unit × Controller ρ) :
    (proceed next (s.putBack step)).monitor = s.monitor := by
  obtain ⟨_ | _, c⟩ := step <;> rfl

/-- A monitor that was launched is never replaced. -/
theorem monitor_launch (hs : s.Sound r host outside) {t : Thread σ} (ht : s.monitor = some t)
    (next : Progress σ) (failure : Option String) (plan : WatchPlan) (manager : σ) :
    (proceed next (s.launch r failure plan manager)).monitor = some t := by
  rcases hs.controller.spawn failure with ⟨e, hspawn, -⟩ | ⟨armed, c, -, -, hstage, -⟩
  · simp [Supervisor.launch, hspawn, ht]
  · have hlaunched := hs.monitor_eq
    rw [ht, hs.controller.launched_eq, hstage] at hlaunched
    cases hlaunched

/-- Whether a monitor may be launched by it. -/
def Act.isLaunch : Act σ → Bool
  | .call (.launch _ _ _) => true
  | .start => true
  | _ => false

/-- What an act may make of a supervisor. -/
inductive Becomes (p : Peers σ ρ) (s : Supervisor σ ρ) : Act σ → Supervisor σ ρ → Prop
  /-- it leaves the monitor alone, and the controller makes no step -/
  | aside {x : Act σ} {c : Controller ρ} {ch : Channel} {progress : Progress σ}
      (hc : c.requests = s.controller.requests) : Becomes p s x ⟨c, s.monitor, ch, progress⟩
  /-- the controller makes a step that launches nothing -/
  | steps {x : Act σ} {t : Supervisor σ ρ} {next : Progress σ}
      {step : Except LifecycleError Unit × Controller ρ} (ht : t.monitor = s.monitor) :
      Becomes p s x (proceed next (t.putBack step))
  | launches {x : Act σ} {next : Progress σ} {failure : Option String} {plan : WatchPlan}
      {manager : σ} (hx : x.isLaunch = true) :
      Becomes p s x (proceed next (s.launch p.reporter failure plan manager))
  | works (b : Monitor.Act) :
      Becomes p s (.monitor b)
        { s with monitor := s.monitor.map (Thread.act p.manager s.controller.cancelled b) }

theorem becomes_act (p : Peers σ ρ) (s : Supervisor σ ρ) (x : Act σ) :
    s.Becomes p x (s.act p x) := by
  have hsame : ∀ x, s.Becomes p x s := fun x => .aside rfl
  cases x with
  | call o =>
    simp only [Supervisor.act]
    split
    · cases o with
      | launch plan manager failure => exact .launches rfl
      | _ => exact .steps rfl
    · exact hsame _
  | load =>
    simp only [Supervisor.act, Supervisor.load]
    split
    · split <;> exact .aside rfl
    · exact hsame _
  | start =>
    simp only [Supervisor.act]
    split
    · exact .launches rfl
    · exact hsame _
  | receive =>
    simp only [Supervisor.act, Supervisor.receive]
    split
    · split
      · exact .steps rfl
      · split
        · exact .steps rfl
        · exact hsame _
    · exact hsame _
  | join =>
    simp only [Supervisor.act]
    split
    · exact .steps rfl
    · exact hsame _
  | giveUp =>
    simp only [Supervisor.act]
    split
    · split
      · exact .steps rfl
      · exact hsame _
    · exact hsame _
  | monitor b => exact .works b
  | _ => exact .aside rfl

theorem monitor_act_of_ended (hs : s.Sound p.reporter host outside) {t : Thread σ}
    {result : Result} (ht : s.monitor = some t) (hresult : t.result? = some result) (x : Act σ) :
    (s.act p x).monitor = some t := by
  have hbecomes := becomes_act p s x
  generalize s.act p x = s' at hbecomes ⊢
  cases hbecomes with
  | aside => exact ht
  | steps hsame => exact (monitor_proceed _ _).trans (hsame.trans ht)
  | launches => exact monitor_launch hs ht _ _ _ _
  | works b => rw [ht, Option.map_some, act_of_result? hresult]

/-- When the monitor has ended nothing is called any more, whatever the controller is
called to do. -/
theorem calls_follow_of_ended (hs : s.Sound p.reporter host outside) {t : Thread σ}
    {result : Result} (ht : s.monitor = some t) (hresult : t.result? = some result)
    (later : List (Act σ)) : (s.follow p later).calls = t.calls := by
  induction later generalizing s outside with
  | nil => simp [Supervisor.follow, calls, ht]
  | cons x later ih => exact ih (hs.act x) (monitor_act_of_ended hs ht hresult x)

/-! ## What a run comes to -/

theorem Runs.loaded_of_calls (h : s.Runs m a) (hcalls : s.calls ≠ []) :
    ∃ plan, a.plan.value = .ok plan := by
  cases h with
  | planned hch hplan => exact ⟨_, hplan⟩
  | waiting hch ht => exact ⟨_, ht.plan_eq⟩
  | joining hsent hdecides ht => exact ⟨_, ht.plan_eq⟩
  | returned hstage hsent hdecides ht hexit => exact ⟨_, ht.plan_eq⟩
  | _ => exact absurd rfl hcalls

/-- Before a launch one report was made and no thread started. -/
theorem Sound.of_startPending (hs : s.Sound r host outside)
    (hstage : s.controller.stage = .startPending) :
    s.controller.reports = [.startPending] ∧ s.controller.spawned = 0 := by
  constructor
  · rw [hs.controller.reports_eq, hstage]
    rfl
  · rw [hs.controller.spawned_eq, hs.controller.launched_eq, hstage]
    rfl

theorem Runs.of_error (hs : s.Sound p.reporter host outside) {e : Settings.Error}
    (hplan : a.plan.value = .error e) (h : s.Runs m a) :
    s.controller.stage = .startPending ∧ s.monitor = none ∧
      (∀ outcome, s.progress = .over outcome → outcome = .error (.settings e)) ∧
      (s.act p .load).progress = .over (.error (.settings e)) := by
  have hfits := hs.fits
  -- only the first step of the run and its end are left, if there is no plan
  have hnone : ∀ {plan : WatchPlan}, a.plan.value ≠ .ok plan := by simp [hplan]
  cases h with
  | entered hch =>
    exact ⟨hfits, rfl, by simp, by simp [Supervisor.act, Supervisor.load, hplan]⟩
  | unreadable hstage hplan' =>
    rw [hplan, Except.error.injEq] at hplan'
    subst hplan'
    exact ⟨hstage, rfl, fun outcome h => (Progress.over.inj h).symm, rfl⟩
  | planned hch hplan' => exact absurd hplan' hnone
  | unlaunched hstage hplan' hfailure => exact absurd hplan' hnone
  | waiting hch ht => exact absurd ht.plan_eq hnone
  | joining hsent hdecides ht => exact absurd ht.plan_eq hnone
  | returned hstage hsent hdecides ht hexit => exact absurd ht.plan_eq hnone

theorem Runs.of_over (hs : s.Sound r host outside) (h : s.Runs m a)
    {outcome : Except RunError StopOutcome} (hover : s.progress = .over outcome) :
    (∃ e, a.plan.value = .error e ∧ outcome = .error (.settings e)) ∨
      (∃ reason, a.spawnFailure = some reason ∧ outcome = .error (.lifecycle (.spawn reason)) ∧
        s.controller.stage = .startPending ∧ s.monitor = none) ∨
      ∃ request exit plan t, outcome = .ok ⟨request, exit⟩ ∧ s.controller.stage = .stopped ∧
        a.channel.sent <+: s.channel.sent ∧ s.channel.Decides request ∧ Watches m a plan t ∧
        s.monitor = some t ∧
        (exit = .timedOut ∨ ∃ result, t.result? = some result ∧ exit = .ofResult result) := by
  cases h with
  | unreadable hstage hplan => exact Or.inl ⟨_, hplan, (Progress.over.inj hover).symm⟩
  | unlaunched hstage hplan hfailure =>
    exact Or.inr (Or.inl ⟨_, hfailure, (Progress.over.inj hover).symm, hstage, rfl⟩)
  | returned hstage hsent hdecides ht hexit =>
    exact Or.inr (Or.inr ⟨_, _, _, _, (Progress.over.inj hover).symm, hstage, hsent, hdecides, ht,
      rfl, hexit⟩)
  | _ => cases hover

/-! ## The main statement -/

/-- What a run has come to so far. -/
structure Completes (p : Peers σ ρ) (a : Assignment σ) (s : Supervisor σ ρ) : Prop where
  /-- nothing is called unless the plan was loaded -/
  loaded_of_calls : s.calls ≠ [] → ∃ plan, a.plan.value = .ok plan
  /-- a plan that cannot be loaded ends the run with that error, at its next step if it
  has not ended yet, before anything is launched -/
  unreadable : ∀ e, a.plan.value = .error e →
    s.controller.stage = .startPending ∧ s.controller.reports = [.startPending] ∧
      s.controller.spawned = 0 ∧ s.monitor = none ∧
      (∀ outcome, s.progress = .over outcome → outcome = .error (.settings e)) ∧
      (s.act p .load).progress = .over (.error (.settings e))
  /-- so does a thread that cannot be started -/
  unlaunched : ∀ plan reason, a.plan.value = .ok plan → a.spawnFailure = some reason →
    ∀ outcome, s.progress = .over outcome → outcome = .error (.lifecycle (.spawn reason)) ∧
      s.controller.stage = .startPending ∧ s.monitor = none
  /-- otherwise the run succeeds when it returns, with the first request of all; every
  stage was reported -/
  returned : ∀ plan, a.plan.value = .ok plan → a.spawnFailure = none →
    ∀ outcome, s.progress = .over outcome →
      (∃ request exit, outcome = .ok ⟨request, exit⟩ ∧ a.channel.sent <+: s.channel.sent ∧
        s.channel.Decides request) ∧
      s.controller.reports = [.startPending, .running, .stopPending, .stopped]
  /-- which it can as soon as there is a request or nobody can send one -/
  canReturn : s.channel.Ready → s.CanReturn p
  /-- no monitor is left running uncancelled, however the run ends -/
  cancelled : ∀ outcome, s.progress = .over outcome → s.controller.launched = true →
    s.controller.cancelled = true
  /-- a monitor that has finished has made whole passes, and calls nothing any more -/
  whole : ∀ request k, s.progress = .over (.ok ⟨request, .finished k⟩) →
    ∃ plan, a.plan.value = .ok plan ∧
      s.calls = (rounds p.manager plan.services a.host k).2 ∧
      ∀ later, (s.follow p later).calls = s.calls

theorem Runs.completes (hs : s.Sound p.reporter host outside) (htaken : a.channel.taken = 0)
    (h : s.Runs p.manager a) : s.Completes p a where
  loaded_of_calls := h.loaded_of_calls
  unreadable := by
    intro e hplan
    obtain ⟨hstage, hmonitor, hover, hload⟩ := h.of_error hs hplan
    obtain ⟨hreports, hspawned⟩ := hs.of_startPending hstage
    exact ⟨hstage, hreports, hspawned, hmonitor, hover, hload⟩
  unlaunched := by
    intro plan reason hplan hfailure outcome hover
    rcases h.of_over hs hover with ⟨e, he, -⟩ | ⟨reason', hreason, houtcome, hstage, hmonitor⟩ |
      ⟨request, exit, plan', t, -, -, -, -, ht, -⟩
    · rw [hplan] at he
      cases he
    · rw [hfailure, Option.some.injEq] at hreason
      exact ⟨hreason ▸ houtcome, hstage, hmonitor⟩
    · have hspawned := ht.spawned
      rw [hfailure] at hspawned
      cases hspawned
  returned := by
    intro plan hplan hfailure outcome hover
    rcases h.of_over hs hover with ⟨e, he, -⟩ | ⟨reason', hreason, -⟩ |
      ⟨request, exit, plan', t, houtcome, hstage, hsent, hdecides, -⟩
    · rw [hplan] at he
      cases he
    · rw [hfailure] at hreason
      cases hreason
    · refine ⟨⟨request, exit, houtcome, hsent, hdecides⟩, ?_⟩
      rw [hs.controller.reports_eq, hstage]
      rfl
  canReturn := h.canReturn hs htaken
  cancelled := by
    intro outcome hover hlaunched
    rw [hs.controller.launched_eq] at hlaunched
    rcases h.of_over hs hover with ⟨e, he, -⟩ | ⟨reason, -, -, hstage, -⟩ |
      ⟨request, exit, plan, t, -, hstage, -⟩
    · rw [(h.of_error (p := p) hs he).1] at hlaunched
      cases hlaunched
    · rw [hstage] at hlaunched
      cases hlaunched
    · rw [hs.controller.cancelled_eq, hstage]
      exact Bool.or_true outside
  whole := by
    intro request k hover
    rcases h.of_over hs hover with ⟨e, -, houtcome⟩ | ⟨reason, -, houtcome, -⟩ |
      ⟨request', exit, plan, t, houtcome, -, -, -, ht, hmonitor, hexit⟩
    · cases houtcome
    · cases houtcome
    · cases houtcome
      rcases hexit with htimedOut | ⟨result, hresult, hexit⟩
      · cases htimedOut
      · have hcalls : s.calls = t.calls := by simp [calls, hmonitor]
        have hfinished : .finished k = result := (Exit.ofResult_inj (q := .finished k)).mp hexit
        have houtcome := outcome?_of_result? (hfinished ▸ hresult)
        refine ⟨plan, ht.plan_eq, hcalls.trans (ht.keeps.of_finished houtcome).2, ?_⟩
        intro later
        rw [calls_follow_of_ended hs hmonitor hresult, hcalls]

/-- Whatever the source of the settings, the services, the requests and the others do, a
run of a supervisor that was never called before completes as it should. -/
theorem completes_follow {τ : Type} (p : Peers σ ρ) (host : ρ) (grace : Duration)
    (source : Settings.Source τ) (state : τ) (manager : σ) (requests : List Request)
    (closed : Bool) (failure : Option String) (before during : List (Act σ))
    (hbefore : before.any Act.isCall = false) (hduring : during.any Act.isCall = false) :
    Completes p (.reading source state manager ⟨requests, 0, closed⟩ failure)
      (((new host : Supervisor σ ρ).withGrace grace).follow p (before ++
        .call (.run (.reading source state manager ⟨requests, 0, closed⟩ failure)) :: during)) := by
  generalize hassign : Assignment.reading source state manager ⟨requests, 0, closed⟩ failure = a
  have htaken : a.channel.taken = 0 := by rw [← hassign]; rfl
  have hfresh : ((new host : Supervisor σ ρ).withGrace grace).Untouched := ⟨rfl, rfl, rfl⟩
  have hs := (sound_new (σ := σ) p.reporter host grace).follow before
  have hcalled := (hfresh.follow hbefore).call hs a
  have hruns := hcalled.follow (hs.act _) htaken hduring
  have hsound := (hs.act (.call (.run a))).follow during
  rw [Supervisor.follow, List.foldl_append, List.foldl_cons]
  exact hruns.completes hsound htaken

/-- A run is asked to shut down while its monitor makes its first pass. -/
theorem completes_script :
    let source := Settings.memory
    let state : Settings.Memory :=
      ⟨[(Settings.Key.services.name, .textList ["a", "b"]),
        (Settings.Key.pollInterval.name, .integer 5000)], [], []⟩
    let script : Script :=
      ⟨[("a", ⟨[.status .stopped], [.accepted], 0, 0⟩), ("b", ⟨[.status .running], [], 0, 0⟩)]⟩
    let a := Assignment.reading source state script ⟨[], 0, false⟩ none
    let during : List (Act Script) :=
      [.load, .start, .monitor .elapse, .monitor .work, .send .shutdown, .send .stop, .receive] ++
        List.replicate 9 (.monitor .work) ++ [.join]
    let s := ((new () : Supervisor Script Unit).withGrace (.ofSeconds 1)).follow
      ⟨.silent, Script.manager⟩ ([] ++ .call (.run a) :: during)
    during.any Act.isCall = false ∧ s.Completes ⟨.silent, Script.manager⟩ a ∧
      s.progress = .over (.ok ⟨.shutdown, .finished 1⟩) ∧
      s.calls = [.query "a", .start "a", .query "b"] := by
  refine ⟨rfl, completes_follow _ _ _ _ _ _ _ _ _ _ _ rfl rfl, ?_, ?_⟩
  · rfl
  · rfl

end Supervisor

end ServiceSupervisor
