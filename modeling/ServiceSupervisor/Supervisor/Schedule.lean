import ServiceSupervisor.Monitor.Schedule
import ServiceSupervisor.Supervisor.Basic

/-!
  Supervisor/Schedule.lean --- running a supervisor in the order in which it comes to rest.

  The monitor acts until it has to wait; then the controller goes on.
-/

set_option autoImplicit false

namespace ServiceSupervisor

open Monitor (Thread Ending)

/-- Something that happens while a call of the manager is under way. -/
inductive Happening where
  | cancel
  | send (request : Request)
  deriving DecidableEq, Repr, Inhabited

/-- The act that it is to the supervisor. -/
def Happening.act {σ : Type} : Happening → Supervisor.Act σ
  | cancel => .cancel
  | send request => .send request

/-- What surrounds a monitor: what becomes of its calls, and what happens while
one is under way. -/
structure Surroundings (σ : Type) where
  ending : Thread σ → Ending
  happens : Thread σ → List Happening

/-- Every call is answered, and nothing else happens. -/
def Surroundings.calm (σ : Type) : Surroundings σ := ⟨fun _ => .answers, fun _ => []⟩

namespace Supervisor

variable {σ ρ : Type}

/-- Lets the monitor act until it has to wait. -/
def settle (p : Peers σ ρ) (around : Surroundings σ) : Nat → Supervisor σ ρ → Supervisor σ ρ
  | 0, s => s
  | fuel + 1, s =>
    match s.monitor with
    | none => s
    | some t =>
      let s := if t.isCalling then s.follow p ((around.happens t).map Happening.act) else s
      match t.due? around.ending s.controller.cancelled with
      | none => s
      | some act => settle p around fuel (s.act p (.monitor act))

/-- Ends the stop that has begun, by the monitor's end if it comes. -/
def awaitMonitor (p : Peers σ ρ) (around : Surroundings σ) (fuel : Nat) (s : Supervisor σ ρ) :
    Supervisor σ ρ :=
  let s := s.settle p around fuel
  if s.exit?.isSome then s.act p .join else s.act p .giveUp

/-- A whole run. -/
def run (p : Peers σ ρ) (a : Assignment σ) (around : Surroundings σ) (fuel : Nat)
    (s : Supervisor σ ρ) : Supervisor σ ρ :=
  let s := ((s.begin p a).settle p around fuel).act p .receive
  match s.progress with
  | .joining _ => s.awaitMonitor p around fuel
  | _ => s

end Supervisor

end ServiceSupervisor
