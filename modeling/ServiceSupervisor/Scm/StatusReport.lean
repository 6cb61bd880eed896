import ServiceSupervisor.Scm.Control
import ServiceSupervisor.Supervisor.Controller

/-!
  Scm/StatusReport.lean --- what the manager is told of the service.

  A report tells the stage and which controls are accepted.  In a pending stage it
  also tells how far things are and how long the next step may take, so that the
  manager can see that there is progress.
-/

set_option autoImplicit false

namespace ServiceSupervisor.Scm

/-- What a stopped service leaves behind. -/
inductive ExitCode where
  | win32 (code : Nat)
  | serviceSpecific (code : Nat)
  deriving DecidableEq, Repr, Inhabited

/-- How the exit code is shown. -/
def ExitCode.text : ExitCode → String
  | win32 code => "Win32(" ++ toString code ++ ")"
  | serviceSpecific code => "ServiceSpecific(" ++ toString code ++ ")"

/-- A report to the manager. -/
structure StatusReport where
  stage : Stage
  /-- the kinds of control that may be sent, as a set of bits -/
  accepts : Nat
  exit : ExitCode
  checkpoint : Nat
  waitHint : Duration
  deriving DecidableEq, Repr, Inhabited

/-- The bits for stopping and for shutting down. -/
def acceptsStops : Nat := 1 + 4

/-- The name the manager has for a stage. -/
def stateName : Stage → String
  | .initializing => "Initializing"
  | .startPending => "StartPending"
  | .running => "Running"
  | .stopPending => "StopPending"
  | .stopped => "Stopped"

/-- The report on one line.  The service has a process of its own, type 16, and
does not name it. -/
def StatusReport.text (r : StatusReport) : String :=
  "report " ++ stateName r.stage ++ " type=16 accepts=" ++ toString r.accepts ++
    " exit=" ++ r.exit.text ++ " checkpoint=" ++ toString r.checkpoint ++
    " wait_hint=" ++ r.waitHint.text ++ " pid=None"

/-- Whether a stage is one that is to pass. -/
def isPending (s : Stage) : Bool := s = .startPending || s = .stopPending

/-- How long the manager should wait for the stage after `s`. -/
def waitHint : Stage → Duration
  | .startPending => .ofSeconds 5
  | .stopPending => Controller.defaultGrace
  | _ => .ofSeconds 0

/-- The line to the manager: what it makes of the n-th report, counted from one,
and what has gone over it. -/
structure StatusLine where
  /-- why the n-th report is refused, if it is -/
  refusal : Nat → Option String
  /-- the controls that arrive while the n-th report is made -/
  controls : Nat → List Control
  /-- the last checkpoint told -/
  checkpoint : Nat
  sent : List StatusReport

namespace StatusLine

/-- A status line on which nothing was reported yet. -/
def new (refusal : Nat → Option String) (controls : Nat → List Control) : StatusLine :=
  ⟨refusal, controls, 0, []⟩

/-- Makes a report.  A pending stage gets the next checkpoint. -/
def send (stage : Stage) (exit : ExitCode) (l : StatusLine) : Reported × StatusLine :=
  let n := l.sent.length + 1
  let reached := if isPending stage then l.checkpoint + 1 else l.checkpoint
  let report : StatusReport :=
    ⟨stage, if stage = .running then acceptsStops else 0, exit,
      if isPending stage then reached else 0, waitHint stage⟩
  let heard := (l.controls n).map (·.handle true)
  (⟨l.refusal n, heard.flatMap (·.log), heard.filterMap (·.value)⟩,
    { l with checkpoint := reached, sent := l.sent ++ [report] })

/-- Tells the manager of each stage after the first. -/
def reporter : Reporter StatusLine where
  report stage l :=
    if stage = .initializing then (⟨none, [], []⟩, l) else l.send stage (.win32 0)

end StatusLine

/-- The number a service leaves behind that could not begin to monitor. -/
def failureCode : Nat := 1

/-- Tells the manager that the service has stopped without having monitored. -/
def reportFailure (c : Controller StatusLine) : Controller StatusLine :=
  let (done, line) := c.host.send .stopped (.serviceSpecific failureCode)
  { c with
    host := line
    log := c.log ++ done.log ++ done.failure.toList.map fun reason =>
      ⟨.host, .warn, "failed to report stopped state: " ++ reason⟩ }

end ServiceSupervisor.Scm
