import ServiceSupervisor.Files.Tree
import ServiceSupervisor.Registry.Reader
import ServiceSupervisor.Scm.Host
import ServiceSupervisor.Settings.OwnName
import ServiceSupervisor.Verb

/-!
  Scm/Registration.lean --- the supervisor's own service: installed, deleted,
  started, stopped.

  Each verb is a list of calls and ends at the first that fails.
-/

set_option autoImplicit false

namespace ServiceSupervisor.Scm

open Session

/-- What a verb was about when a call failed. -/
inductive VerbStep where
  | openManager (verb : Verb)
  | openService (verb : Verb)
  | create (name : String)
  | createKey
  | queryStatus
  | stop
  | delete
  | start
  deriving DecidableEq, Repr, Inhabited

/-- What is said when the step fails. -/
def VerbStep.failure : VerbStep → String
  | openManager verb => "Failed to open Service Control Manager for " ++ verb.name
  | openService verb => "Failed to open service for " ++ verb.name
  | create name => "Failed to create service " ++ name
  | createKey => "Failed to create service Parameters registry key"
  | queryStatus => "Failed to query service status"
  | stop => "Failed to stop service"
  | delete => "Failed to delete service"
  | start => "Failed to start service"

/-- Why a verb failed. -/
inductive VerbError where
  | config (e : FileError)
  | step (step : VerbStep) (e : Win32Error)
  deriving DecidableEq, Repr, Inhabited

/-- What is said about the error. -/
def VerbError.message : VerbError → String
  | config e => "Failed to resolve configuration path: " ++ e.message
  | step s e => s.failure ++ ": " ++ e.text

/-- Makes a call in a step of a verb. -/
def inStep {α : Type} (step : VerbStep) (s : Session Win32Error α) : Session VerbError α :=
  mapError (.step step) s

/-- Goes on with a handle of the verb's service. -/
def withOwnService (verb : Verb) (name : OwnName) (access : Nat)
    (body : Nat → Session VerbError Unit) : Session VerbError Unit :=
  withManager (.step (.openManager verb)) Access.connect fun manager =>
    withService (.step (.openService verb)) manager name.text access body

/-- The command that the manager runs. -/
def command (program : String) (name : OwnName) (config : Option String) : String :=
  "\"" ++ program ++ "\" service " ++ name.text ++
    (config.elim "" fun c => " --config \"" ++ c ++ "\"")

/-- The settings file's path, resolved now: the service is run elsewhere. -/
def resolveConfig (tree : Tree) (config : Option String) : Session VerbError (Option String) :=
  fun i =>
    match config with
    | none => (.ok none, i)
    | some path => ((tree.realPath path).map some |>.mapError .config, i)

/-- Registers the service, and makes the registry key its settings can be kept in. -/
def install (tree : Tree) (program : String) (name : OwnName) (config : Option String) :
    Session VerbError Unit := do
  let config ← resolveConfig tree config
  let command := command program name config
  withManager (.step (.openManager .install)) (Access.connect + Access.createService)
    fun manager => do
      holding (inStep (.create name.text)
          (acquire (.createService manager (seen name.text) Access.all (seen command))))
        .closeHandle fun _ => pure ()
      note ⟨.host, .info, "created service " ++ name.text ++ " running " ++ command⟩
      holding (inStep .createKey (acquire (.createKey (seen (Registry.parametersKey name)))))
        .closeKey fun _ => pure ()

/-- Sends a stop to a service. -/
def stopService (service : Nat) : Session VerbError Unit :=
  discard (inStep .stop (call (.controlStop service)))

/-- Stops the service if it is not stopped, and removes it. -/
def delete (name : OwnName) : Session VerbError Unit :=
  withOwnService .delete name Access.all fun service => do
    let state ← inStep .queryStatus (call (.queryStatus service))
    if state ≠ stoppedState then
      note ⟨.host, .info, name.text ++ " is " ++ (statusOf state).name ++ "; stopping it first"⟩
      stopService service
    discard (inStep .delete (call (.deleteService service)))

/-- Does what a verb says; only an installation needs the program and its settings. -/
def perform (tree : Tree) (program : String) (name : OwnName) (config : Option String) :
    Verb → Session VerbError Unit
  | .install => install tree program name config
  | .delete => delete name
  | .start =>
    withOwnService .start name Access.start fun service =>
      discard (inStep .start (call (.startService service)))
  | .stop => withOwnService .stop name Access.stop stopService

end ServiceSupervisor.Scm
