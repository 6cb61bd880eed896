import ServiceSupervisor.Journal
import ServiceSupervisor.Settings.Source

/-!
  Settings/LogTarget.lean --- where a managed service writes its log.
-/

set_option autoImplicit false

namespace ServiceSupervisor

open Settings

/-- The log file, and the least urgent level that goes into it. -/
structure LogTarget where
  path : String
  level : Level
  deriving DecidableEq, Repr, Inhabited

namespace LogTarget

/-- The level of rank `n`; every other number means the most talkative level. -/
def levelOfNumber (n : Nat) : Level :=
  (Level.all.find? fun l => l.rank == n).getD .trace

/-- Reads the log file and its level.  Without a file the level is not asked for;
without a level only errors are written. -/
def load {σ : Type} (source : Source σ) : Reading σ (Option LogTarget) := do
  match ← source.read Key.logPath.name with
  | some (.text path) =>
    match ← source.read Key.logLevel.name with
    | some (.integer n) => pure (some ⟨path, levelOfNumber n⟩)
    | some v => throw (.malformed .logLevel (.wrongType "an integer" v.typeName))
    | none => pure (some ⟨path, .error⟩)
  | some v => throw (.malformed .logPath (.wrongType "a string" v.typeName))
  | none => pure none

end LogTarget

end ServiceSupervisor
