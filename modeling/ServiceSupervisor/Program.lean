import ServiceSupervisor.CommandLine.Help
import ServiceSupervisor.Interrupt.Forwarder
import ServiceSupervisor.Logging.Logbook
import ServiceSupervisor.Settings.ConfigFile
import ServiceSupervisor.Settings.LogTarget
import ServiceSupervisor.Supervisor.Schedule
import ServiceSupervisor.Systemd.Registration
import ServiceSupervisor.Systemd.Reporter
import ServiceSupervisor.Toml.Document

/-!
  Program.lean --- the whole program, from its arguments to its exit code.

  The program reads its settings from a file and manages services with systemd.
  What it does to files, what it writes and which programs it starts is one value,
  and so is what it finds around it.
-/

set_option autoImplicit false

namespace ServiceSupervisor

open Logging (Logbook Threshold)

/-- A signal that comes when `systemctl` has been started so often. -/
structure Interruption where
  starts : Nat
  signal : Nat
  deriving DecidableEq, Repr, Inhabited

/-- What the program finds around it. -/
structure World where
  env : Environment
  /-- the path of the running program -/
  program : String
  /-- the number of the process, as text -/
  process : String
  /-- the time, as it is written into logs -/
  stamp : String
  interruptions : List Interruption

/-- What the program has written and done. -/
structure Effects where
  out : String
  book : Logbook
  systemctl : Systemd.Systemctl

/-- The end of a piece of work.  Work that waits for a signal has none yet. -/
inductive Ending where
  | success
  | failure (reason : String)
  | waits
  deriving DecidableEq, Repr, Inhabited

namespace Effects

/-- Logs some entries at the moment of the run. -/
def entries (w : World) (e : Effects) (es : List Entry) : Effects :=
  { e with book := e.book.entries w.stamp es }

/-- Logs one line at the moment of the run. -/
def note (w : World) (e : Effects) (part : Part) (level : Level) (text : String) : Effects :=
  e.entries w [⟨part, level, text⟩]

end Effects

/-- The file that the settings are read from. -/
def settingsPath (w : World) (name : OwnName) (config : Option String) : String :=
  config.getD (Settings.ConfigFile.defaultPath w.env name)

/-- The settings in a file, which is written in TOML. -/
def settingsFile (path : String) : Settings.Source Settings.FileReader :=
  Settings.ConfigFile.source Toml.Document.read path

/-! ## Supervising -/

/-- A supervisor that manages services with systemd. -/
abbrev SystemdSupervisor : Type := Supervisor Systemd.Systemctl Unit

/-- Whom a supervisor deals with whose reports go to `reporter`. -/
def peers (w : World) (reporter : Reporter Unit) : Peers Systemd.Systemctl Unit :=
  ⟨reporter, Systemd.manager w.env.scope Systemd.defaultLimit⟩

/-- What a supervisor logs when it enters, which is before it reads its settings. -/
def entryLog (reporter : Reporter Unit) : List Entry :=
  ((Supervisor.new () : SystemdSupervisor).enter reporter).2.controller.log

/-- The log of the monitor's thread. -/
def monitorLog (s : SystemdSupervisor) : List Entry := (s.monitor.map (·.log)).getD []

/-- Writes what was logged between two moments: the controller's lines, then the
monitor's. -/
def logSince (w : World) (before after : SystemdSupervisor) (e : Effects) : Effects :=
  (e.entries w (after.controller.log.drop before.controller.log.length)).entries w
    ((monitorLog after).drop (monitorLog before).length)

/-- The signals that have come when `systemctl` has been started `starts` times. -/
def arrived (w : World) (starts : Nat) : List Interrupt.Forwarder.Act :=
  (w.interruptions.filter fun i => i.starts ≤ starts).map fun i => .signal i.signal

/-- Supervises until a signal comes, and stops. -/
def stopOnSignal (w : World) (name : OwnName) (p : Peers Systemd.Systemctl Unit) (fuel : Nat)
    (s : SystemdSupervisor) (e : Effects) : Ending × Effects :=
  let starts := (e.systemctl.calls).length
  let f := Interrupt.Forwarder.new.run (arrived w starts ++ [.look])
  let e := e.entries w f.log
  match f.sent with
  | none => (.waits, e)
  | some r =>
    let around := Surroundings.calm Systemd.Systemctl
    let stopping := s.follow p [.send r, .receive]
    let stopped := stopping.awaitMonitor p around fuel
    let ended := stopped.settle p around fuel
    let e := logSince w s stopping e
    -- the monitor ends before the controller sees it
    let e := logSince w { stopping with monitor := stopped.monitor } ended
      (logSince w stopping { stopping with monitor := stopped.monitor } e)
    let e := { e with systemctl := (ended.monitor.map (·.host)).getD e.systemctl }
    match stopped.progress with
    | .over (.ok o) =>
      (.success, e.note w .control .info (name.text ++ " stopped after " ++ o.request.name))
    | .over (.error reason) => (.failure reason.message, e)
    | _ => (.waits, e)

/-- Supervises with the settings of a file.  They are read after the first lines are
logged, which may go into that very file. -/
def supervise (w : World) (name : OwnName) (config : Option String) (reporter : Reporter Unit)
    (fuel : Nat) (e : Effects) : Ending × Effects :=
  let location := settingsPath w name config
  let e := e.entries w [Systemd.connectNote w.env.scope]
  let e := e.note w .control .info
    (name.text ++ " supervising from " ++ location ++ " (pid " ++ w.process ++ ")")
  let e := e.entries w (entryLog reporter)
  let p := peers w reporter
  let a := Assignment.reading (settingsFile location) ⟨e.book.tree, none⟩ e.systemctl .empty none
  let s := ((Supervisor.new () : SystemdSupervisor).begin p a).settle p
    (Surroundings.calm Systemd.Systemctl) fuel
  let e := e.entries w (s.controller.log.drop (entryLog reporter).length)
  let e := e.entries w (monitorLog s)
  let e := { e with systemctl := (s.monitor.map (·.host)).getD e.systemctl }
  match s.progress with
  | .over (.error reason) => (.failure reason.message, e)
  | _ => stopOnSignal w name p fuel s e

/-! ## Commands -/

/-- Sets up the log of a service, as its settings say. -/
def openServiceLog (w : World) (location : String) (e : Effects) : Effects :=
  match ((LogTarget.load (settingsFile location)).run ⟨e.book.tree, none⟩).1 with
  | .ok target =>
    { e with book := e.book.useFile w.env (target.map fun t => (t.path, .upTo t.level)) }
  | .error reason =>
    { e with book := e.book.useErrors w.env (.upTo .info) }.note w .control .warn
      ("ignoring log settings: " ++ reason.message)

/-- Does something with the service, and says so when it is done. -/
def performVerb (w : World) (name : OwnName) (config : Option String) (verb : Verb) (e : Effects) :
    Ending × Effects :=
  let (r, m) := Systemd.perform w.env w.program name config verb ⟨e.book.tree, e.systemctl, []⟩
  let book := { e.book with tree := m.tree }
  let e := { e with book, systemctl := m.systemctl }.entries w m.log
  match r with
  | .ok _ => (.success, { e with out := e.out ++ name.text ++ " " ++ verb.success ++ "\n" })
  | .error reason => (.failure reason.message, e)

/-- Carries out a command. -/
def execute (w : World) (name : OwnName) (config : Option String) (fuel : Nat) (e : Effects) :
    Command → Ending × Effects
  | .run => supervise w name config .silent fuel e
  | .service =>
    supervise w name config Systemd.reporter fuel (openServiceLog w (settingsPath w name config) e)
  | .verb v => performVerb w name config v e

/-- Says why the program fails: in the log, or plainly where errors are not logged. -/
def complain (w : World) (e : Effects) (reason : String) : Effects :=
  if e.book.isOpen .program .error then e.note w .program .error reason
  else { e with book := e.book.say reason }

namespace Program

/-- Does what is asked for.  A service sets up its log itself, once its name is known. -/
def obey (w : World) (i : CommandLine.Invocation) (fuel : Nat) (e : Effects) : Ending × Effects :=
  let command := i.command.getD .run
  let e := if command = .service then e else { e with book := e.book.useErrors w.env (.upTo .info) }
  match OwnName.resolve i.name (Text.Utf8.encode w.program) with
  | .error reason => (.failure reason.message, e)
  | .ok name => execute w name i.config fuel e command

/-- The whole program: its exit code, unless it still waits for a signal, and its
effects. -/
def run (w : World) (arguments : List String) (fuel : Nat) (e : Effects) : Option Nat × Effects :=
  match CommandLine.read arguments with
  | .error r =>
    (some r.exitCode,
      if r.isAnswer then { e with out := e.out ++ r.text }
      else { e with book := { e.book with errors := e.book.errors ++ r.text } })
  | .ok i =>
    match obey w i fuel e with
    | (.success, e) => (some 0, e)
    | (.failure reason, e) => (some 1, complain w e reason)
    | (.waits, e) => (none, e)

end Program

end ServiceSupervisor
