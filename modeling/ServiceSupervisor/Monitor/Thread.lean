import ServiceSupervisor.Monitor.Pass

/-!
  Monitor/Thread.lean --- the monitor's thread, step by step.

  The thread waits for the initial delay, and then makes passes with the poll
  interval between them, until it sees that it is cancelled.  A step is what
  nobody can interrupt: a call that is made, its answer, a look at the
  cancellation, the end of a wait.  A call is never cut short, so a pass that has
  begun runs to its end.
-/

set_option autoImplicit false

namespace ServiceSupervisor.Monitor

/-- How the thread's work ended. -/
inductive Result where
  | finished (passes : Nat)
  /-- a call of the manager did not come back -/
  | crashed
  deriving DecidableEq, Repr, Inhabited

/-- Where the thread is. -/
inductive Phase where
  /-- in the initial wait -/
  | delaying
  /-- in a pass, between two services -/
  | visiting (todo : List String) (report : PassReport)
  /-- in a pass, with a query under way -/
  | querying (name : String) (todo : List String) (report : PassReport)
  /-- in a pass, with a start requested -/
  | starting (name : String) (todo : List String) (report : PassReport)
  /-- after a pass, about to look at the cancellation -/
  | checking
  /-- in the wait between passes -/
  | pausing
  /-- done with the work -/
  | leaving (r : Result)
  /-- whoever waits for the thread knows that it is done -/
  | announced (r : Result)
  | ended (r : Result)
  deriving DecidableEq, Repr, Inhabited

/-- The monitor's thread: what it is to do, what it did, and where it is. -/
structure Thread (σ : Type) where
  plan : WatchPlan
  host : σ
  phase : Phase
  passes : Nat
  calls : List Call
  log : List Entry
  deriving Repr

/-- What may happen in a thread. -/
inductive Act where
  /-- its next step, or none if it waits for something that has not come -/
  | work
  /-- the time of its wait is over -/
  | elapse
  /-- the manager's call that is under way does not come back -/
  | crash
  deriving DecidableEq, Repr, Inhabited

namespace Thread

variable {σ : Type}

/-- A new thread, in its initial wait. -/
def launch (plan : WatchPlan) (host : σ) : Thread σ where
  plan := plan
  host := host
  phase := .delaying
  passes := 0
  calls := []
  log :=
    if plan.initialDelay.isZero then []
    else [⟨.monitor, .debug, "waiting " ++ plan.initialDelay.text ++ " before the first poll"⟩]

/-- The line logged when the monitoring is over. -/
def stopNote (passes : Nat) : Entry :=
  ⟨.monitor, .info, "monitoring stopped after " ++ toString passes ++ " cycles"⟩

/-- Begins a pass. -/
def beginPass (t : Thread σ) : Thread σ := { t with phase := .visiting t.plan.services .empty }

/-- Ends the loop after the passes made. -/
def stop (t : Thread σ) : Thread σ :=
  { t with phase := .leaving (.finished t.passes), log := t.log ++ [stopNote t.passes] }

/-- The next step of the thread. -/
def work (m : Manager σ) (cancelled : Bool) (t : Thread σ) : Thread σ :=
  match t.phase with
  | .delaying => if cancelled then { t with phase := .leaving (.finished 0) } else t
  | .visiting [] report =>
    { t with
      phase := .checking
      passes := t.passes + 1
      log := t.log ++ [passNote (t.passes + 1) report] }
  | .visiting (name :: todo) report =>
    { t with phase := .querying name todo report, calls := t.calls ++ [.query name] }
  | .querying name todo report =>
    let (answer, host) := m.query name t.host
    let report := report.observe name answer
    if asksStart answer then
      { t with
        host := host
        phase := .starting name todo report.request
        calls := t.calls ++ [.start name]
        log := t.log ++ queryNotes name answer ++ [startNote name] }
    else
      { t with
        host := host
        phase := .visiting todo report
        log := t.log ++ queryNotes name answer }
  | .starting name todo report =>
    let (answer, host) := m.start name t.host
    { t with
      host := host
      phase := .visiting todo (report.settle answer)
      log := t.log ++ startNotes answer }
  | .checking => if cancelled then t.stop else { t with phase := .pausing }
  | .pausing => if cancelled then t.stop else t
  | .leaving r => { t with phase := .announced r }
  | .announced r => { t with phase := .ended r }
  | .ended _ => t

/-- The end of a wait: the cancellation is looked at once more. -/
def elapse (cancelled : Bool) (t : Thread σ) : Thread σ :=
  match t.phase with
  | .delaying => if cancelled then { t with phase := .leaving (.finished 0) } else t.beginPass
  | .pausing => if cancelled then t.stop else t.beginPass
  | _ => t

/-- A call that does not come back takes the thread down with it. -/
def crash (t : Thread σ) : Thread σ :=
  match t.phase with
  | .querying _ _ _ => { t with phase := .leaving .crashed }
  | .starting _ _ _ => { t with phase := .leaving .crashed }
  | _ => t

/-- What becomes of a thread. -/
def act (m : Manager σ) (cancelled : Bool) : Act → Thread σ → Thread σ
  | .work => work m cancelled
  | .elapse => elapse cancelled
  | .crash => crash

/-- What the thread's work came to, once it has ended. -/
def result? (t : Thread σ) : Option Result :=
  match t.phase with
  | .ended r => some r
  | _ => none

/-- Whether those who wait for the thread know that it is done. -/
def isAnnounced (t : Thread σ) : Bool :=
  match t.phase with
  | .announced _ => true
  | .ended _ => true
  | _ => false

end Thread

end ServiceSupervisor.Monitor
