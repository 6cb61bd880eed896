import ServiceSupervisor.Monitor.Thread

/-!
  Monitor/Watch.lean --- a monitor's thread, its cancellation, and the wait for its end.

  Whoever waits for the thread learns that it is done when it announces that, and
  then takes its result when it has ended.  If the patience runs out before the
  announcement, the thread is left to itself.
-/

set_option autoImplicit false

namespace ServiceSupervisor.Monitor

/-- What a bounded wait for the thread came to. -/
inductive Exit where
  | finished (passes : Nat)
  | crashed
  /-- the thread was still at work when the patience ran out -/
  | timedOut
  deriving DecidableEq, Repr, Inhabited

/-- The exit of a thread that was waited for to its end. -/
def Exit.ofResult : Result → Exit
  | .finished n => .finished n
  | .crashed => .crashed

@[simp] theorem Exit.ofResult_inj {q r : Result} : ofResult q = ofResult r ↔ q = r := by
  cases q <;> cases r <;> simp [ofResult]

@[simp] theorem Exit.ofResult_ne_timedOut (r : Result) : ofResult r ≠ timedOut := by
  cases r <;> simp [ofResult]

/-- A monitor's thread, whether it is cancelled, and what the wait for it came to. -/
structure Watch (σ : Type) where
  thread : Thread σ
  cancelled : Bool
  exit : Option Exit
  deriving Repr

namespace Watch

variable {σ : Type}

/-- What may happen to a watch. -/
inductive Act where
  | thread (a : Monitor.Act)
  | cancel
  /-- the waiting side takes the result, if it is there -/
  | join
  /-- the waiting side runs out of patience -/
  | giveUp
  deriving DecidableEq, Repr, Inhabited

/-- A thread that has just been started on a plan, with nobody waiting for it. -/
def launch (plan : WatchPlan) (host : σ) : Watch σ := ⟨Thread.launch plan host, false, none⟩

/-- Takes the result of the thread, if it has ended and nobody has taken it. -/
def join (w : Watch σ) : Watch σ :=
  match w.exit, w.thread.result? with
  | none, some r => { w with exit := some (.ofResult r) }
  | _, _ => w

/-- Gives up waiting for a thread that has not said that it is done. -/
def giveUp (w : Watch σ) : Watch σ :=
  match w.exit with
  | none => if w.thread.isAnnounced then w else { w with exit := some .timedOut }
  | some _ => w

/-- What an act makes of the watch. -/
def act (m : Manager σ) : Act → Watch σ → Watch σ
  | .thread a, w => { w with thread := w.thread.act m w.cancelled a }
  | .cancel, w => { w with cancelled := true }
  | .join, w => w.join
  | .giveUp, w => w.giveUp

/-- A sequence of acts. -/
def follow (m : Manager σ) (w : Watch σ) (acts : List Act) : Watch σ :=
  acts.foldl (fun w a => w.act m a) w

end Watch

end ServiceSupervisor.Monitor
