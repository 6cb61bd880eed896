import ServiceSupervisor.Scm.Host
import ServiceSupervisor.Scm.StatusReport
import ServiceSupervisor.Settings.OwnName
import ServiceSupervisor.Supervisor.Schedule

/-!
  Scm/Service.lean --- the supervisor run as a service of Windows.

  The manager's dispatcher runs the service, once in a process.  The service
  registers for controls, looks whether the manager can be reached, and runs its
  supervisor, which gets the controls as requests.  When it could not begin to
  monitor it still tells the manager that it has stopped.
-/

set_option autoImplicit false

namespace ServiceSupervisor.Scm

/-- Why a service failed. -/
inductive ServiceError where
  /-- the process has had its run -/
  | dispatched
  | dispatcher (reason : String)
  | register (reason : String)
  | connect (e : Win32Error)
  | run (e : RunError)
  deriving DecidableEq, Repr, Inhabited

/-- What is said about the error. -/
def ServiceError.message : ServiceError → String
  | dispatched => "service dispatcher already started"
  | dispatcher reason =>
    "Failed to connect to the service dispatcher (not launched by the SCM?): " ++ reason
  | register reason => "Failed to register service control handler: " ++ reason
  | connect e => connectFailure e
  | run e => e.message

/-- What a service is run with. -/
structure Launch where
  name : OwnName
  /-- the number of the process, as text -/
  process : String
  /-- how messages name the source of the settings -/
  location : String
  /-- what comes of reading the settings -/
  plan : Logged (Except Settings.Error WatchPlan)
  /-- why the dispatcher does not run the service, if it does not -/
  dispatcherFailure : Option String
  /-- why the manager refuses to send controls, if it does -/
  registerFailure : Option String
  spawnFailure : Option String

/-- What the manager sees of a service besides its reports. -/
inductive Contact where
  | dispatch (name : String)
  | register (name : String)
  deriving DecidableEq, Repr, Inhabited

/-- How the contact is shown. -/
def Contact.text : Contact → String
  | dispatch name => "dispatch " ++ name
  | register name => "register " ++ name

/-- A service, with the interface as its monitor finds it, and its result when it
is over. -/
structure Service where
  contacts : List Contact
  interface : Interface
  supervisor : Supervisor Interface StatusLine
  result : Option (Except ServiceError Unit)

namespace Service

/-- Logs a line about the service. -/
def note (s : Service) (level : Level) (text : String) : Service :=
  let c := s.supervisor.controller
  { s with
    supervisor := { s.supervisor with
      controller := { c with log := c.log ++ [⟨.host, level, text⟩] } } }

/-- Ends the service in failure. -/
def fail (e : ServiceError) (s : Service) : Service :=
  { s.note .error e.message with result := some (.error e) }

/-- Ends the service in failure, of which the manager is told. -/
def failOpenly (e : ServiceError) (s : Service) : Service :=
  fail e { s with
    supervisor := { s.supervisor with controller := reportFailure s.supervisor.controller } }

/-- Whom the supervisor works with in a service. -/
def peers : Peers Interface StatusLine := ⟨StatusLine.reporter, manager⟩

/-- What the supervisor is to do in a launch. -/
def assignment (l : Launch) (i : Interface) : Assignment Interface :=
  ⟨i, l.location, l.plan, .empty, l.spawnFailure⟩

/-- Looks whether the manager can be reached. -/
def reach (l : Launch) (s : Service) : Service :=
  match connect s.interface with
  | (.error e, i) => failOpenly (.connect e) { s with interface := i }
  | (.ok _, i) =>
    { s with interface := i }.note .info
      (l.name.text ++ " starting under the SCM (pid " ++ l.process ++ ")")

/-- What the service does before its supervisor runs.  `dispatched` tells whether
the process has had its run. -/
def begin (dispatched : Bool) (l : Launch) (line : StatusLine) (i : Interface) : Service :=
  let s : Service := ⟨[], i, .new line, none⟩
  if dispatched then { s with result := some (.error .dispatched) }
  else
    let s := { s with contacts := [Contact.dispatch l.name.text] }
    match l.dispatcherFailure with
    | some reason => { s with result := some (.error (.dispatcher reason)) }
    | none =>
      let s := { s with contacts := s.contacts ++ [Contact.register l.name.text] }
      match l.registerFailure with
      | some reason => s.fail (.register reason)
      | none => s.reach l

/-- What the service does when its supervisor's run is over. -/
def conclude (s : Service) : Service :=
  match s.result, s.supervisor.progress with
  | none, .over (.ok o) =>
    { s.note .info ("stopped after " ++ o.request.name) with result := some (.ok ()) }
  | none, .over (.error e) => s.failOpenly (.run e)
  | _, _ => s

/-- A whole run of the service. -/
def run (dispatched : Bool) (l : Launch) (line : StatusLine) (around : Surroundings Interface)
    (fuel : Nat) (i : Interface) : Service :=
  let s := begin dispatched l line i
  match s.result with
  | some _ => s
  | none =>
    { s with supervisor := s.supervisor.run peers (assignment l s.interface) around fuel }.conclude

/-- The interface after all that was done. -/
def lastInterface (s : Service) : Interface :=
  match s.supervisor.monitor with
  | some t => t.host
  | none => s.interface

/-- What a process sees of several runs: the first is dispatched, the others are not. -/
def runs (times : Nat) (l : Launch) (line : StatusLine) (around : Surroundings Interface)
    (fuel : Nat) (i : Interface) : List Service :=
  (List.range times).map fun k => run (k ≠ 0) l line around fuel i

/-- The reports that were sent, from the first to the last. -/
def reports (s : Service) : List StatusReport := s.supervisor.controller.host.sent

/-- What the manager sees of the service, in order. -/
def events (s : Service) : List String := s.contacts.map (·.text) ++ s.reports.map (·.text)

/-- The controls that arrived, in order: those that come with the monitor's status
queries come between the second report and the third. -/
def heard (atQuery : Nat → List Control) (s : Service) : List Control :=
  let upTo := fun n => (List.range n).map (· + 1)
  let atReport := s.supervisor.controller.host.controls
  (upTo (min 2 s.reports.length)).flatMap atReport ++
    (upTo (s.lastInterface.count .queryStatus)).flatMap atQuery ++
    ((upTo s.reports.length).drop 2).flatMap atReport

end Service

/-- The number of the status query, counted from one, that the call under way makes,
if it comes to one. -/
def statusQuery? (t : Monitor.Thread Interface) : Option Nat :=
  match t.phase with
  | .querying name _ _ =>
    let after := (query name t.host).2.count .queryStatus
    if t.host.count .queryStatus < after then some after else none
  | _ => none

/-- Every call is answered, and controls arrive during the status queries. -/
def surroundings (controls : Nat → List Control) : Surroundings Interface :=
  ⟨fun _ => .answers, fun t =>
    match statusQuery? t with
    | some n => (controls n).filterMap fun c => (c.handle true).value.map .send
    | none => []⟩

end ServiceSupervisor.Scm
