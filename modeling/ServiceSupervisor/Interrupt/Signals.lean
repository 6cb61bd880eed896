import ServiceSupervisor.Journal
import ServiceSupervisor.Supervisor.Stage

/-!
  Interrupt/Signals.lean --- signals of the operating system, and what they ask for.

  A handler puts the number of a signal into a cell, over what is there.  Someone
  who looks from time to time takes it out again.
-/

set_option autoImplicit false

namespace ServiceSupervisor.Interrupt

/-- The names of the signals, from number one on. -/
def names : List String :=
  ["SIGHUP", "SIGINT", "SIGQUIT", "SIGILL", "SIGTRAP", "SIGABRT", "SIGBUS", "SIGFPE", "SIGKILL",
   "SIGUSR1", "SIGSEGV", "SIGUSR2", "SIGPIPE", "SIGALRM", "SIGTERM", "SIGSTKFLT", "SIGCHLD",
   "SIGCONT", "SIGSTOP", "SIGTSTP", "SIGTTIN", "SIGTTOU", "SIGURG", "SIGXCPU", "SIGXFSZ",
   "SIGVTALRM", "SIGPROF", "SIGWINCH", "SIGIO", "SIGPWR", "SIGSYS"]

/-- The word that a handler puts down for the number of a signal: sixty-four bits, with the
sign all over the upper half. -/
def word (number : Int32) : Nat := number.toInt64.toUInt64.toNat

/-- A number cut to thirty-two bits with a sign. -/
def cut (number : Nat) : Int := (Int32.ofNat number).toInt

/-- The name of the signal that a number stands for once it is cut. -/
def name? (number : Nat) : Option String :=
  let n := cut number
  if 1 ≤ n then names[(n - 1).toNat]? else none

/-- What a recorded signal asks for.  Only two signals ask for anything; the
others should not be there. -/
def requestFor (number : Nat) : Logged (Option Request) :=
  match name? number with
  | some "SIGTERM" => pure (some .stop)
  | some "SIGINT" => pure (some .interrupt)
  | some name => do
    Logged.note .interrupts .error ("unexpected signal " ++ name ++ " recorded")
    pure none
  | none => do
    Logged.note .interrupts .error ("BUG: invalid signal number " ++ toString number ++
      " from signal handler: EINVAL: Invalid argument")
    pure none

/-- The number of the last signal that was not taken yet, zero if there is none. -/
structure Cell where
  number : Nat
  deriving DecidableEq, Repr, Inhabited

namespace Cell

/-- A cell that holds no signal. -/
def empty : Cell := ⟨0⟩

/-- Records a signal. -/
def record (_ : Cell) (number : Nat) : Cell := ⟨number⟩

/-- Takes the signal out, and tells what it asks for. -/
def check (c : Cell) : Logged (Option Request) × Cell :=
  (if c.number = 0 then pure none else requestFor c.number, empty)

end Cell

end ServiceSupervisor.Interrupt
