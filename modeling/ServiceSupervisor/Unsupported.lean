import ServiceSupervisor.Service.Manager
import ServiceSupervisor.Verb

/-!
  Unsupported.lean --- a host without a service manager that the program knows.

  Services can be asked for, with an error for an answer; so settings can be
  tried out.  Nothing can be registered.
-/

set_option autoImplicit false

namespace ServiceSupervisor.Unsupported

/-- Why nothing can be asked here. -/
def reason : String := "no supported service manager on this platform"

/-- The manager that answers nothing. -/
def manager : Manager Unit where
  query name u := (.error (.host name reason), u)
  start name u := (.error (.host name reason), u)

/-- What is said of something that cannot be done. -/
def refusal (what : String) : String := what ++ ": " ++ reason

/-- The refusals of the verbs, and of running as a service. -/
def refusals : List String := (Verb.all.map Verb.name ++ ["service mode"]).map refusal

end ServiceSupervisor.Unsupported
