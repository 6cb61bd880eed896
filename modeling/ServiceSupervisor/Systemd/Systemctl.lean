import ServiceSupervisor.Duration
import ServiceSupervisor.Files.FileError

/-!
  Systemd/Systemctl.lean --- the program `systemctl`, as it answers one start after another.

  Every start of the program is an attempt with its arguments.  It may fail to
  start, take its time, and end well or not; what it writes is bytes.
-/

set_option autoImplicit false

namespace ServiceSupervisor.Systemd

/-- What a start of the program is going to do. -/
inductive Behaviour where
  /-- it is not started at all -/
  | missing (e : FileError)
  /-- it runs for a while, writes and ends -/
  | runs (time : Duration) (success : Bool) (out err : List UInt8)
  deriving DecidableEq, Repr, Inhabited

/-- What its caller sees of a start. -/
inductive Outcome where
  | notStarted (e : FileError)
  /-- it was still running when the time was up, and was killed -/
  | timedOut
  | ended (success : Bool) (out err : List UInt8)
  deriving DecidableEq, Repr, Inhabited

/-- An attempt to start the program. -/
structure Attempt where
  args : List String
  started : Bool
  deriving DecidableEq, Repr, Inhabited

/-- The program: what its n-th start does, and the attempts made. -/
structure Systemctl where
  behaviour : Nat → Behaviour
  attempts : List Attempt

namespace Systemctl

/-- Whether the arguments can be handed to a program. -/
def arePlain (args : List String) : Bool := args.all fun a => a.toList.all (· ≠ '\x00')

/-- Starts the program, and kills it when it takes longer than `limit`. -/
def run (limit : Option Duration) (args : List String) (s : Systemctl) : Outcome × Systemctl :=
  if arePlain args then
    match s.behaviour s.attempts.length with
    | .missing e => (.notStarted e, { s with attempts := s.attempts ++ [⟨args, false⟩] })
    | .runs time success out err =>
      let s := { s with attempts := s.attempts ++ [⟨args, true⟩] }
      match limit with
      | some l => (if l.nanos ≤ time.nanos then .timedOut else .ended success out err, s)
      | none => (.ended success out err, s)
  else (.notStarted .nulInArgument, s)

/-- The argument lists of the starts that came about. -/
def calls (s : Systemctl) : List (List String) := (s.attempts.filter (·.started)).map (·.args)

end Systemctl

end ServiceSupervisor.Systemd
