import ServiceSupervisor.Monitor.Watch
import ServiceSupervisor.Service.Script

/-!
  Monitor/Schedule.lean --- running a monitor until it has to wait.

  Time is told apart only as far as it matters here: a short wait is over when
  nothing else can happen, a long one only by cancellation.  While a call is
  under way, things may happen around it; then it is answered, or never comes
  back, or hangs.
-/

set_option autoImplicit false

namespace ServiceSupervisor.Monitor

/-- What becomes of a call that is under way. -/
inductive Ending where
  | answers
  | crashes
  | hangs
  deriving DecidableEq, Repr, Inhabited

/-- Waits of this length and more are long. -/
def longWait : Duration := .ofSeconds 60

/-- Whether a wait is long enough to be logged. -/
def isLong (d : Duration) : Bool := longWait.nanos ≤ d.nanos

namespace Thread

variable {σ : Type}

/-- Whether a call of the manager is under way. -/
def isCalling (t : Thread σ) : Bool :=
  match t.phase with
  | .querying _ _ _ => true
  | .starting _ _ _ => true
  | _ => false

/-- What the thread does next, unless it has to wait. -/
def due? (ending : Thread σ → Ending) (cancelled : Bool) (t : Thread σ) : Option Act :=
  match t.phase with
  | .delaying =>
    if cancelled then some .work else if isLong t.plan.initialDelay then none else some .elapse
  | .pausing =>
    if cancelled then some .work else if isLong t.plan.pollInterval then none else some .elapse
  | .ended _ => none
  | _ =>
    if t.isCalling then
      match ending t with
      | .answers => some .work
      | .crashes => some .crash
      | .hangs => none
    else some .work

end Thread

/-- What the script makes of the call that is under way. -/
def scriptedEnding (t : Thread Script) : Ending :=
  match t.phase with
  | .querying name _ _ =>
    match t.host.nextQuery name with
    | .crash => .crashes
    | .hang => .hangs
    | _ => .answers
  | _ => .answers

/-- Every call is answered, those that hung as well. -/
def releasedEnding (t : Thread Script) : Ending :=
  match scriptedEnding t with
  | .crashes => .crashes
  | _ => .answers

namespace Watch

variable {σ : Type}

/-- Lets the thread act until it has to wait.  `cancelsAt` tells whether it is
cancelled while the call of that number is under way. -/
def settle (m : Manager σ) (ending : Thread σ → Ending) (cancelsAt : Nat → Bool) :
    Nat → Watch σ → Watch σ
  | 0, w => w
  | fuel + 1, w =>
    let w := if w.thread.isCalling && cancelsAt w.thread.calls.length then w.act m .cancel else w
    match w.thread.due? ending w.cancelled with
    | none => w
    | some a => settle m ending cancelsAt fuel (w.act m (.thread a))

end Watch

end ServiceSupervisor.Monitor
