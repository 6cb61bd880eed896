import ServiceSupervisor.Monitor.Watch
import ServiceSupervisor.Supervisor.Stage

/-!
  Supervisor/Controller.lean --- the supervisor's own life as a service.

  The controller moves from stage to stage and reports each to the host.  It
  launches a monitor once, and to stop cancels it and waits for its end.  A
  report that fails is logged and changes nothing else.
-/

set_option autoImplicit false

namespace ServiceSupervisor

/-- What became of one report to the host. -/
structure Reported where
  /-- why it failed, if it did -/
  failure : Option String
  /-- what was logged on the way -/
  log : List Entry
  /-- the stop requests that came in while it was made -/
  requests : List Request
  deriving DecidableEq, Repr, Inhabited

/-- Whom the stages are reported to: a host in a state `ρ`. -/
structure Reporter (ρ : Type) where
  report : Stage → ρ → Reported × ρ

namespace Reporter

/-- Nobody listens. -/
def silent : Reporter Unit where
  report _ u := (⟨none, [], []⟩, u)

end Reporter

/-- Why the controller refuses. -/
inductive LifecycleError where
  | alreadyLaunched
  /-- the system did not start the monitor's thread -/
  | spawn (reason : String)
  | invalidTransition (stage : Stage) (event : Event)
  deriving DecidableEq, Repr, Inhabited

/-- What is said about the error. -/
def LifecycleError.message : LifecycleError → String
  | alreadyLaunched => "the monitoring engine has already been launched"
  | spawn reason => "failed to launch the monitoring thread: " ++ reason
  | invalidTransition stage event =>
    "event " ++ event.name ++ " is not valid in state " ++ stage.name

/-- The text of a failed report. -/
def reportFailure (stage : Stage) (reason : String) : String :=
  "failed to report " ++ stage.name ++ " to the host: " ++ reason

/-- What a completed stop came to. -/
structure StopOutcome where
  request : Request
  monitor : Monitor.Exit
  deriving DecidableEq, Repr, Inhabited

/-- A supervisor's controller, with the host it reports to. -/
structure Controller (ρ : Type) where
  stage : Stage
  /-- whether a monitor was launched, ever -/
  launched : Bool
  /-- how many threads were started for monitors, ever -/
  spawned : Nat
  /-- whether there is a monitor that was not waited for -/
  watching : Bool
  /-- whether the monitor is cancelled, or will be when it is launched -/
  cancelled : Bool
  /-- how long a stop waits for the monitor -/
  grace : Duration
  host : ρ
  /-- the stages reported, whether that failed or not -/
  reports : List Stage
  /-- the stop requests that came in while reports were made -/
  requests : List Request
  log : List Entry
  deriving Repr

namespace Controller

variable {ρ : Type}

/-- How long a stop waits unless told otherwise. -/
def defaultGrace : Duration := .ofSeconds 10

/-- A controller that nothing was done with. -/
def new (host : ρ) : Controller ρ :=
  ⟨.initializing, false, 0, false, false, defaultGrace, host, [], [], []⟩

/-- Logs a line. -/
def note (c : Controller ρ) (level : Level) (text : String) : Controller ρ :=
  { c with log := c.log ++ [⟨.lifecycle, level, text⟩] }

/-- Goes on to a stage and reports it. -/
def moveTo (r : Reporter ρ) (next : Stage) (c : Controller ρ) : Controller ρ :=
  let (done, host) := r.report next c.host
  { c with
    stage := next
    host := host
    reports := c.reports ++ [next]
    requests := c.requests ++ done.requests
    log := c.log ++
      [⟨.lifecycle, .info, "supervisor " ++ c.stage.name ++ " → " ++ next.name⟩] ++ done.log ++
      done.failure.toList.map fun reason => ⟨.lifecycle, .warn, reportFailure next reason⟩ }

/-! ## The steps of its operations

Each answers whether it was refused, and gives the controller as it leaves it; a
refusal does not undo what was done before it. -/

/-- Goes on to the stage that an event leads to. -/
def apply (r : Reporter ρ) (e : Event) (c : Controller ρ) :
    Except LifecycleError Unit × Controller ρ :=
  match c.stage.next? e with
  | some next => (.ok (), c.moveTo r next)
  | none => (.error (.invalidTransition c.stage e), c)

/-- Whether a monitor may be launched now. -/
def mayLaunch (c : Controller ρ) : Except LifecycleError Unit :=
  if c.launched then .error .alreadyLaunched
  else if (c.stage.next? .monitorLaunched).isNone then
    .error (.invalidTransition c.stage .monitorLaunched)
  else .ok ()

/-- Starts the monitor's thread, once.  `failure` tells why it cannot be started, if
it cannot. -/
def spawn (failure : Option String) (c : Controller ρ) :
    Except LifecycleError Unit × Controller ρ :=
  match c.mayLaunch with
  | .error e => (.error e, c)
  | .ok () =>
    match failure with
    | some reason => (.error (.spawn reason), c)
    | none => (.ok (), { c with watching := true, launched := true, spawned := c.spawned + 1 })

/-- Cancels the monitor, or the one that is launched later. -/
def cancel (c : Controller ρ) : Controller ρ := { c with cancelled := true }

/-- Begins to stop: from now on the monitor is cancelled. -/
def beginStop (r : Reporter ρ) (request : Request) (c : Controller ρ) :
    Except LifecycleError Unit × Controller ρ :=
  match c.apply r .stopRequested with
  | (.error e, c) => (.error e, c)
  | (.ok (), c) => (.ok (), (c.note .info ("stop requested (" ++ request.name ++ ")")).cancel)

/-- What is logged about the end of the monitor. -/
def exitNotes (grace : Duration) : Monitor.Exit → List Entry
  | .finished _ => []
  | .crashed => [⟨.lifecycle, .error, "monitor thread panicked"⟩]
  | .timedOut =>
    [⟨.lifecycle, .warn, "monitor did not exit within " ++ grace.text ++ "; stopping anyway"⟩]

/-- Ends a stop once it is known what became of the monitor. -/
def finishStop (r : Reporter ρ) (exit : Monitor.Exit) (c : Controller ρ) :
    Except LifecycleError Unit × Controller ρ :=
  apply r .monitorExited { c with watching := false, log := c.log ++ exitNotes c.grace exit }

end Controller

end ServiceSupervisor
