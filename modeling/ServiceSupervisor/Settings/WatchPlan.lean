import ServiceSupervisor.Duration
import ServiceSupervisor.Journal
import ServiceSupervisor.Settings.Source
import ServiceSupervisor.Text.Blank

/-!
  Settings/WatchPlan.lean --- what to watch and how often.

  A plan lists each service once, under its trimmed name, in the order in which
  the names were first given.  Types are checked while the settings are read, one
  after the other; contents only once all of them are there.
-/

set_option autoImplicit false

namespace ServiceSupervisor

open Settings

/-- The services to keep running and the times to keep. -/
structure WatchPlan where
  services : List String
  pollInterval : Duration
  initialDelay : Duration
  deriving DecidableEq, Repr, Inhabited

namespace WatchPlan

/-- The warning for a name that is listed again. -/
def repeatNotice (name : String) : String :=
  Key.services.name ++ " lists " ++ Text.quote name ++ " more than once; ignoring repeat"

/-- Adds the trimmed names to those kept so far, each once; a blank one ends it. -/
def collect (kept : List String) : List String → Logged (Except Settings.Error (List String))
  | [] => pure (.ok kept)
  | given :: rest =>
    let name := Text.trim given
    if name.isEmpty then pure (.error (.malformed .services .blankService))
    else if name ∈ kept then do
      Logged.note .settings .warn (repeatNotice name)
      collect kept rest
    else collect (kept ++ [name]) rest

/-- A plan for the listed services, if the list and the times make sense. -/
def make (listed : List String) (pollInterval initialDelay : Duration) :
    Logged (Except Settings.Error WatchPlan) := do
  match ← collect [] listed with
  | .error e => pure (.error e)
  | .ok [] => pure (.error (.malformed .services .noServices))
  | .ok services =>
    if pollInterval.isZero then pure (.error (.malformed .pollInterval .zeroInterval))
    else pure (.ok ⟨services, pollInterval, initialDelay⟩)

/-! ## Reading a plan -/

/-- Reads a setting that must be a count of milliseconds if it is there. -/
def readMillis {σ : Type} (source : Source σ) (key : Key) : Reading σ (Option Nat) := do
  match ← source.read key.name with
  | some (.integer n) => pure (some n)
  | some v => throw (.malformed key (.wrongType "an integer" v.typeName))
  | none => pure none

/-- Reads the listed services and the two times, in milliseconds. -/
def readParts {σ : Type} (source : Source σ) : Reading σ (List String × Nat × Nat) := do
  let listed ← match ← source.read Key.services.name with
    | some (.textList xs) => pure xs
    | some v => throw (.malformed .services (.wrongType "a string list" v.typeName))
    | none => throw (.missing .services)
  let poll ← match ← readMillis source .pollInterval with
    | some n => pure n
    | none => throw (.missing .pollInterval)
  let initial ← readMillis source .initialDelay
  pure (listed, poll, initial.getD 0)

/-- Reads a plan from a source. -/
def load {σ : Type} (source : Source σ) (s : σ) :
    Logged (Except Settings.Error WatchPlan) × σ :=
  match (readParts source).run s with
  | (.error e, s') => (pure (.error e), s')
  | (.ok (listed, poll, initial), s') =>
    (make listed (Duration.ofMillis poll) (Duration.ofMillis initial), s')

end WatchPlan

end ServiceSupervisor
