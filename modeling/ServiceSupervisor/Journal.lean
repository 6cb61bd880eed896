/-!
  Journal.lean --- what the program logs: levels, entries and computations that log.

  A computation that logs returns its entries beside its value, oldest first; who
  runs it decides where they go.
-/

set_option autoImplicit false

namespace ServiceSupervisor

/-- How much an entry matters, most urgent first. -/
inductive Level where
  | error | warn | info | debug | trace
  deriving DecidableEq, Repr, Inhabited

namespace Level

/-- The level's rank, one for the most urgent. -/
def rank : Level → Nat
  | error => 1 | warn => 2 | info => 3 | debug => 4 | trace => 5

/-- What a log line calls the level. -/
def name : Level → String
  | error => "ERROR" | warn => "WARN" | info => "INFO" | debug => "DEBUG" | trace => "TRACE"

/-- Every level, most urgent first. -/
def all : List Level := [error, warn, info, debug, trace]

end Level

/-- The part of the program that logs. -/
inductive Part where
  | settings
  | monitor
  /-- the controller of the supervisor's own life -/
  | lifecycle
  | interrupts
  /-- what is the same for all hosts -/
  | control
  /-- what talks to the host's service manager -/
  | host
  /-- the outermost part, which reports why the program fails -/
  | program
  deriving DecidableEq, Repr, Inhabited

namespace Part

/-- What a log line calls the part. -/
def name : Part → String
  | settings => "settings"
  | monitor => "monitor"
  | lifecycle => "lifecycle"
  | interrupts => "interrupts"
  | control => "control"
  | host => "host"
  | program => "program"

/-- The name that log directives know a part by.  They pick parts by the beginning
of it, so related parts begin alike. -/
def target : Part → String
  | settings => "svc_restarter::config"
  | monitor => "svc_restarter::engine"
  | lifecycle => "svc_restarter::lifecycle"
  | interrupts => "svc_restarter::signals"
  | control => "svc_restarter::control"
  | host => "svc_restarter::control::linux_control"
  | program => "svcrestarter"

end Part

/-- One logged line. -/
structure Entry where
  part : Part
  level : Level
  text : String
  deriving DecidableEq, Repr, Inhabited

/-- A value and what was logged on the way to it. -/
structure Logged (α : Type) where
  value : α
  log : List Entry := []
  deriving DecidableEq, Repr

namespace Logged

instance : Monad Logged where
  pure a := ⟨a, []⟩
  bind x f := ⟨(f x.value).value, x.log ++ (f x.value).log⟩

/-- Logs one entry. -/
def note (part : Part) (level : Level) (text : String) : Logged Unit :=
  ⟨(), [⟨part, level, text⟩]⟩

@[simp] theorem value_pure {α : Type} (a : α) : (pure a : Logged α).value = a := rfl

@[simp] theorem log_pure {α : Type} (a : α) : (pure a : Logged α).log = [] := rfl

@[simp] theorem value_bind {α β : Type} (x : Logged α) (f : α → Logged β) :
    (x >>= f).value = (f x.value).value := rfl

@[simp] theorem log_bind {α β : Type} (x : Logged α) (f : α → Logged β) :
    (x >>= f).log = x.log ++ (f x.value).log := rfl

end Logged

end ServiceSupervisor
