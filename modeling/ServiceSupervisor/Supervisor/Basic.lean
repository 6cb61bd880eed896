import ServiceSupervisor.Supervisor.Controller

/-!
  Supervisor/Basic.lean --- a supervisor with its monitor and its channel.

  The controller and the monitor's thread share the cancellation; everybody else
  talks to the controller through a channel.  A controller does one operation at a
  time: it enters, launches a monitor, stops, or makes a whole run, which enters,
  loads the plan, launches the monitor, waits for the first request and stops.  The
  acts below may come in any order: one whose turn it is not changes nothing.
-/

set_option autoImplicit false

namespace ServiceSupervisor

open Monitor (Thread Exit)

/-- Why an operation of the controller fails. -/
inductive RunError where
  | settings (e : Settings.Error)
  | lifecycle (e : LifecycleError)
  deriving DecidableEq, Repr, Inhabited

/-- What is said about the error. -/
def RunError.message : RunError → String
  | settings e => e.message
  | lifecycle e => e.message

/-! ## The channel of requests -/

/-- A channel: all that was ever sent, how much of it was taken, and whether nobody
can send any more. -/
structure Channel where
  sent : List Request
  taken : Nat
  closed : Bool
  deriving DecidableEq, Repr, Inhabited

namespace Channel

/-- A channel that nothing was sent on. -/
def empty : Channel := ⟨[], 0, false⟩

/-- Puts requests on the channel, if anybody still can. -/
def send (c : Channel) (requests : List Request) : Channel :=
  if c.closed then c else { c with sent := c.sent ++ requests }

/-- The request that is next to be taken. -/
def next? (c : Channel) : Option Request := c.sent[c.taken]?

/-- Takes the next request from the channel. -/
def take (c : Channel) : Channel := { c with taken := c.taken + 1 }

end Channel

/-! ## Supervisors -/

/-- Whom a supervisor deals with: the host it reports to, and the service manager. -/
structure Peers (σ ρ : Type) where
  reporter : Reporter ρ
  manager : Manager σ

/-- What a run is given. -/
structure Assignment (σ : Type) where
  /-- the service manager, as the monitor finds it -/
  host : σ
  /-- how messages name the source of the settings -/
  location : String
  /-- what came of reading the settings -/
  plan : Logged (Except Settings.Error WatchPlan)
  /-- where its requests come from -/
  channel : Channel
  /-- why the monitor's thread cannot be started, if it cannot -/
  spawnFailure : Option String
  deriving Repr

/-- What a run is given whose settings are read from a source. -/
def Assignment.reading {σ τ : Type} (source : Settings.Source τ) (state : τ) (host : σ)
    (channel : Channel) (spawnFailure : Option String) : Assignment σ :=
  ⟨host, source.location, (WatchPlan.load source state).1, channel, spawnFailure⟩

/-- How far the operation of a controller is. -/
inductive Progress (σ : Type) where
  /-- none was begun, or the last one succeeded -/
  | idle
  /-- a run has entered, and is about to load its plan -/
  | entered (a : Assignment σ)
  /-- a run has its plan, and is about to launch the monitor -/
  | planned (a : Assignment σ) (plan : WatchPlan)
  /-- a run waits for a request to stop -/
  | waiting
  /-- a stop waits for the monitor's end -/
  | joining (request : Request)
  /-- a stop or a run is over, or an operation has failed -/
  | over (outcome : Except RunError StopOutcome)
  deriving Repr, Inhabited

/-- A controller, the monitor it launched, and the requests on their way to it. -/
structure Supervisor (σ ρ : Type) where
  controller : Controller ρ
  monitor : Option (Thread σ)
  channel : Channel
  progress : Progress σ
  deriving Repr

namespace Supervisor

variable {σ ρ : Type}

/-- A supervisor that has not begun. -/
def new (host : ρ) : Supervisor σ ρ := ⟨.new host, none, .empty, .idle⟩

/-- Sets how long a stop waits for the monitor. -/
def withGrace (s : Supervisor σ ρ) (grace : Duration) : Supervisor σ ρ :=
  { s with controller := { s.controller with grace := grace } }

/-- Whether no operation is under way. -/
def atRest (s : Supervisor σ ρ) : Bool :=
  match s.progress with
  | .idle => true
  | .over _ => true
  | _ => false

/-- The calls that the monitor has made. -/
def calls (s : Supervisor σ ρ) : List Call :=
  match s.monitor with
  | some t => t.calls
  | none => []

/-- Puts the controller back, and the requests that came in through it into the
channel. -/
def withController (s : Supervisor σ ρ) (c : Controller ρ) : Supervisor σ ρ :=
  { s with
    controller := { c with requests := [] }
    channel := s.channel.send c.requests }

/-- Logs a line. -/
def note (s : Supervisor σ ρ) (level : Level) (text : String) : Supervisor σ ρ :=
  { s with controller := s.controller.note level text }

/-! ## The steps of the controller -/

/-- Puts the controller back after one of its steps. -/
def putBack (s : Supervisor σ ρ) (step : Except LifecycleError Unit × Controller ρ) :
    Except LifecycleError Unit × Supervisor σ ρ :=
  (step.1, s.withController step.2)

/-- Has the controller enter. -/
def enter (r : Reporter ρ) (s : Supervisor σ ρ) : Except LifecycleError Unit × Supervisor σ ρ :=
  s.putBack (s.controller.apply r .enter)

/-- Launches a monitor for a plan. -/
def launch (r : Reporter ρ) (failure : Option String) (plan : WatchPlan) (host : σ)
    (s : Supervisor σ ρ) : Except LifecycleError Unit × Supervisor σ ρ :=
  match s.controller.spawn failure with
  | (.error e, c) => s.putBack (.error e, c)
  | (.ok (), c) =>
    { s with monitor := some (Thread.launch plan host) }.putBack (c.apply r .monitorLaunched)

/-- Has the controller begin to stop. -/
def beginStop (r : Reporter ρ) (request : Request) (s : Supervisor σ ρ) :
    Except LifecycleError Unit × Supervisor σ ρ :=
  s.putBack (s.controller.beginStop r request)

/-- Has the controller finish stopping. -/
def finishStop (r : Reporter ρ) (exit : Exit) (s : Supervisor σ ρ) :
    Except LifecycleError Unit × Supervisor σ ρ :=
  s.putBack (s.controller.finishStop r exit)

/-- What the wait for the monitor would come to now, if it can end.  Without a
monitor to wait for it ends at once. -/
def exit? (s : Supervisor σ ρ) : Option Exit :=
  if s.controller.watching then (s.monitor.bind Thread.result?).map .ofResult
  else some (.finished 0)

/-- Whether the patience may run out now. -/
def mayGiveUp (s : Supervisor σ ρ) : Bool :=
  s.controller.watching && !s.monitor.any Thread.isAnnounced

/-! ## Operations, step by step -/

/-- Goes on after a step of the controller, unless that was refused. -/
def proceed (next : Progress σ) (step : Except LifecycleError Unit × Supervisor σ ρ) :
    Supervisor σ ρ :=
  match step with
  | (.ok (), s) => { s with progress := next }
  | (.error e, s) => { s with progress := .over (.error (.lifecycle e)) }

/-- The line that tells what will be watched. -/
def watchNote (plan : WatchPlan) : String :=
  "watching " ++ Text.quoteList plan.services ++ " every " ++ plan.pollInterval.text ++
    " (initial delay " ++ plan.initialDelay.text ++ ")"

/-- Loads the plan of a run. -/
def load (a : Assignment σ) (s : Supervisor σ ρ) : Supervisor σ ρ :=
  let s := { s with controller := { s.controller with log := s.controller.log ++ a.plan.log } }
  match a.plan.value with
  | .error e =>
    { s.note .error
        ("cannot start monitoring with configuration from " ++ a.location ++ ": " ++ e.message) with
      progress := .over (.error (.settings e)) }
  | .ok plan => { s.note .info (watchNote plan) with progress := .planned a plan }

/-- Takes the first request.  Where nobody can send any more, that counts as one. -/
def receive (r : Reporter ρ) (s : Supervisor σ ρ) : Supervisor σ ρ :=
  match s.channel.next? with
  | some request =>
    proceed (.joining request) ({ s with channel := s.channel.take }.beginStop r request)
  | none =>
    if s.channel.closed then
      proceed (.joining .stop)
        ((s.note .warn "control channel closed; stopping").beginStop r .stop)
    else s

/-- Ends the stop with what became of the monitor. -/
def complete (r : Reporter ρ) (request : Request) (exit : Exit) (s : Supervisor σ ρ) :
    Supervisor σ ρ :=
  proceed (.over (.ok ⟨request, exit⟩)) (s.finishStop r exit)

/-- What a controller may be called to do. -/
inductive Operation (σ : Type) where
  | enter
  /-- `failure` tells why no thread can be started, if none can -/
  | launch (plan : WatchPlan) (host : σ) (failure : Option String)
  | stop (request : Request)
  | run (a : Assignment σ)
  deriving Repr, Inhabited

/-- What may happen to a supervisor. -/
inductive Act (σ : Type) where
  /-- the controller is called -/
  | call (o : Operation σ)
  /-- a run loads its plan -/
  | load
  /-- a run launches its monitor -/
  | start
  /-- a run takes its first request -/
  | receive
  /-- the monitor has ended, and the controller sees it -/
  | join
  /-- the controller has waited long enough for the monitor -/
  | giveUp
  /-- a step of the monitor's thread -/
  | monitor (a : Monitor.Act)
  /-- somebody sets the cancellation from outside -/
  | cancel
  | send (request : Request)
  /-- nobody will send any more -/
  | close
  deriving Repr, Inhabited

/-- The first step of an operation. -/
def call (p : Peers σ ρ) (s : Supervisor σ ρ) : Operation σ → Supervisor σ ρ
  | .enter => proceed .idle (s.enter p.reporter)
  | .launch plan host failure => proceed .idle (s.launch p.reporter failure plan host)
  | .stop request => proceed (.joining request) (s.beginStop p.reporter request)
  | .run a => proceed (.entered a) ({ s with channel := a.channel }.enter p.reporter)

/-- What an act makes of the supervisor; one whose turn it is not changes nothing. -/
def act (p : Peers σ ρ) (s : Supervisor σ ρ) : Act σ → Supervisor σ ρ
  | .call o => if s.atRest then s.call p o else s
  | .load =>
    match s.progress with
    | .entered a => s.load a
    | _ => s
  | .start =>
    match s.progress with
    | .planned a plan => proceed .waiting (s.launch p.reporter a.spawnFailure plan a.host)
    | _ => s
  | .receive =>
    match s.progress with
    | .waiting => s.receive p.reporter
    | _ => s
  | .join =>
    match s.progress, s.exit? with
    | .joining request, some exit => s.complete p.reporter request exit
    | _, _ => s
  | .giveUp =>
    match s.progress with
    | .joining request => if s.mayGiveUp then s.complete p.reporter request .timedOut else s
    | _ => s
  | .monitor act =>
    { s with monitor := s.monitor.map (Thread.act p.manager s.controller.cancelled act) }
  | .cancel => { s with controller := s.controller.cancel }
  | .send request => { s with channel := s.channel.send [request] }
  | .close => { s with channel := { s.channel with closed := true } }

/-- A sequence of acts. -/
def follow (p : Peers σ ρ) (s : Supervisor σ ρ) (acts : List (Act σ)) : Supervisor σ ρ :=
  acts.foldl (act p) s

/-- Begins a run: enters, loads the plan and launches the monitor. -/
def begin (p : Peers σ ρ) (a : Assignment σ) (s : Supervisor σ ρ) : Supervisor σ ρ :=
  s.follow p [.call (.run a), .load, .start]

end Supervisor

end ServiceSupervisor
