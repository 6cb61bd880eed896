/-!
  Verb.lean --- what a host can be asked to do with the supervisor's own service.
-/

set_option autoImplicit false

namespace ServiceSupervisor

/-- What a host can be asked to do with the supervisor's own service. -/
inductive Verb where
  | install
  | delete
  | start
  | stop
  deriving DecidableEq, Repr, Inhabited

namespace Verb

/-- What a command line calls the verb. -/
def name : Verb → String
  | install => "install"
  | delete => "delete"
  | start => "start"
  | stop => "stop"

/-- What is said when the verb is done.  A start or stop is only requested. -/
def success : Verb → String
  | install => "installed"
  | delete => "deleted"
  | start => "start requested"
  | stop => "stop requested"

/-- The verbs, in the order in which the help lists them. -/
def all : List Verb := [install, delete, start, stop]

end Verb

end ServiceSupervisor
