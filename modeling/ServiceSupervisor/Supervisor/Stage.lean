/-!
  Supervisor/Stage.lean --- the stages of the supervisor's life, and what moves it on.

  The stages form a line: each has one event that leads to the next, and no event
  leads back or skips one.
-/

set_option autoImplicit false

namespace ServiceSupervisor

/-- A stage of the supervisor's life as a service. -/
inductive Stage where
  | initializing
  | startPending
  | running
  | stopPending
  | stopped
  deriving DecidableEq, Repr, Inhabited

/-- What may happen to a supervisor. -/
inductive Event where
  | enter
  | monitorLaunched
  | stopRequested
  /-- the monitor has ended, or the supervisor has given up on it -/
  | monitorExited
  deriving DecidableEq, Repr, Inhabited

/-- What asks a supervisor to stop. -/
inductive Request where
  | stop
  | shutdown
  | interrupt
  deriving DecidableEq, Repr, Inhabited

/-- What a log line calls the stage. -/
def Stage.name : Stage → String
  | initializing => "initializing"
  | startPending => "start pending"
  | running => "running"
  | stopPending => "stop pending"
  | stopped => "stopped"

/-- What a message calls the event. -/
def Event.name : Event → String
  | enter => "Enter"
  | monitorLaunched => "MonitorLaunched"
  | stopRequested => "StopRequested"
  | monitorExited => "MonitorExited"

/-- What a log line calls the request. -/
def Request.name : Request → String
  | stop => "Stop"
  | shutdown => "Shutdown"
  | interrupt => "Interrupt"

namespace Stage

/-- The stage that an event leads to, if it may happen here. -/
def next? : Stage → Event → Option Stage
  | initializing, .enter => some startPending
  | startPending, .monitorLaunched => some running
  | running, .stopRequested => some stopPending
  | stopPending, .monitorExited => some stopped
  | _, _ => none

/-- Whether no stage follows. -/
def isTerminal (s : Stage) : Bool := s == stopped

/-- How many events lead to a stage. -/
def rank : Stage → Nat
  | initializing => 0
  | startPending => 1
  | running => 2
  | stopPending => 3
  | stopped => 4

/-- The stages after the first, in their order. -/
def later : List Stage := [startPending, running, stopPending, stopped]

/-- Every event leads one stage on. -/
theorem rank_next? {s t : Stage} {e : Event} (h : s.next? e = some t) : t.rank = s.rank + 1 := by
  cases s <;> cases e <;> simp [next?] at h <;> subst h <;> rfl

end Stage

end ServiceSupervisor
