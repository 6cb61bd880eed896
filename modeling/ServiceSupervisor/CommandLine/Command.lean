import ServiceSupervisor.Verb

/-!
  CommandLine/Command.lean --- the commands of the program.
-/

set_option autoImplicit false

namespace ServiceSupervisor

/-- What the program can be asked to do. -/
inductive Command where
  /-- supervise until interrupted -/
  | run
  /-- supervise as a service that a host has started -/
  | service
  /-- do something with the service -/
  | verb (v : Verb)
  deriving DecidableEq, Repr, Inhabited

namespace Command

/-- What a command line calls the command. -/
def name : Command → String
  | run => "run"
  | service => "service"
  | verb v => v.name

/-- What the help says about the command. -/
def about : Command → String
  | run => "Supervise in the foreground until interrupted (default if no sub‑command)"
  | service =>
    "Supervise as a managed service; only meaningful when launched by the service manager"
  | verb .install => "Register this executable as a managed service"
  | verb .delete => "Unregister the managed service, stopping it first if needed"
  | verb .start => "Ask the service manager to start the service"
  | verb .stop => "Ask the service manager to stop the service"

/-- The commands, in the order in which the help lists them. -/
def all : List Command := [run, service] ++ Verb.all.map verb

/-- The command of a name, which must be written out. -/
def ofName? (name : String) : Option Command := all.find? fun c => c.name = name

end Command

end ServiceSupervisor
