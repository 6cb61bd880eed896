import ServiceSupervisor.Systemd.Host
import ServiceSupervisor.Systemd.UnitFile
import ServiceSupervisor.Verb

/-!
  Systemd/Registration.lean --- the supervisor's own unit: installed, deleted,
  started, stopped.

  Each verb is a list of steps and ends at the first that fails.  Unlike the
  calls of the monitor, its calls of `systemctl` may take any time.
-/

set_option autoImplicit false

namespace ServiceSupervisor.Systemd

/-- Why a verb failed. -/
inductive VerbError where
  | config (e : FileError)
  | noConfigFolder
  | file (e : UnitError)
  | notExecuted (args : List String) (e : FileError)
  | refused (args : List String) (complaint : String)
  | query (unit : String) (e : QueryError)
  | remove (path : String) (e : FileError)
  deriving DecidableEq, Repr, Inhabited

/-- What is said about the error. -/
def VerbError.message : VerbError → String
  | config e => "Failed to resolve configuration path: " ++ e.message
  | noConfigFolder => "Could not determine config directory"
  | file e => e.message
  | notExecuted args e =>
    "Failed to execute systemctl " ++ String.intercalate " " args ++ ": " ++ e.message
  | refused args complaint =>
    "systemctl " ++ String.intercalate " " args ++ " failed: " ++ complaint
  | query unit e => "Failed to query state of " ++ unit ++ ": " ++ e.message
  | remove path e => "Failed to remove " ++ path ++ ": " ++ e.message

/-- What the verbs act on. -/
structure Machine where
  tree : Tree
  systemctl : Systemctl
  log : List Entry

/-- A step of a verb.  What it did stays done when it fails. -/
abbrev Deed : Type → Type := ExceptT VerbError (StateM Machine)

namespace Deed

/-- Logs an entry. -/
def note (e : Entry) : Deed Unit := fun m => (.ok (), { m with log := m.log ++ [e] })

/-- A step that may fail and changes nothing. -/
def ofExcept {α : Type} (r : Except VerbError α) : Deed α := fun m => (r, m)

/-- A step on the files. -/
def files {ε α : Type} (wrap : ε → VerbError) (f : Filing ε α) : Deed α := fun m =>
  let (r, t) := f m.tree
  (r.mapError wrap, { m with tree := t })

/-- Runs `systemctl` until it ends; it must end well. -/
def call (scope : Scope) (args : List String) : Deed Unit := fun m =>
  let (outcome, s) := m.systemctl.run none (scopeArgs scope ++ args)
  (match outcome with
    | .notStarted e => .error (.notExecuted args e)
    | .ended false _ err => .error (.refused args (complaint err))
    | _ => .ok (),
   { m with systemctl := s })

/-- Asks for the status of a unit, as the monitor does. -/
def status (scope : Scope) (unit : String) : Deed Status := fun m =>
  let (r, s) := query scope defaultLimit unit m.systemctl
  (r.mapError (.query unit), { m with systemctl := s })

/-- The folder for units, which a user may lack. -/
def folder (env : Environment) : Deed String :=
  ofExcept ((unitFolder? env).elim (.error .noConfigFolder) .ok)

end Deed

open Deed

/-- The path of the settings file, resolved now: the unit is run elsewhere. -/
def resolveConfig (config : Option String) : Deed (Option String) := fun m =>
  match config with
  | none => (.ok none, m)
  | some path => ((m.tree.realPath path).map some |>.mapError .config, m)

/-- Writes the unit that runs `program`, and makes systemd start it from now on. -/
def install (env : Environment) (program : String) (name : OwnName) (config : Option String) :
    Deed Unit := do
  let config ← resolveConfig config
  let folder ← folder env
  let path ← files .file ((⟨name, program, config, env.scope, false⟩ : UnitSpec).write folder)
  note ⟨.host, .info, "wrote " ++ path⟩
  call env.scope ["daemon-reload"]
  call env.scope ["enable", unitName name]

/-- Stops the unit if it is not stopped. -/
def stopFirst (scope : Scope) (unit : String) (status : Status) : Deed Unit := do
  if status ≠ .stopped then
    note ⟨.host, .info, unit ++ " is " ++ status.name ++ "; stopping it first"⟩
    call scope ["stop", unit]

/-- Stops and disables the unit, and removes its file. -/
def delete (env : Environment) (name : OwnName) : Deed Unit := do
  let unit := unitName name
  note (connectNote env.scope)
  stopFirst env.scope unit (← status env.scope unit)
  call env.scope ["disable", unit]
  let path := Path.join (← folder env) unit
  files (.remove path) (attempt none id (·.removeFile path))
  call env.scope ["daemon-reload"]

/-- Does what a verb says; only an installation needs the program and its settings. -/
def perform (env : Environment) (program : String) (name : OwnName) (config : Option String) :
    Verb → Deed Unit
  | .install => install env program name config
  | .delete => delete env name
  | .start => call env.scope ["start", unitName name]
  | .stop => call env.scope ["stop", unitName name]

end ServiceSupervisor.Systemd
