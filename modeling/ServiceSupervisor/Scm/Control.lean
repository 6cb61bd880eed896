import ServiceSupervisor.Journal
import ServiceSupervisor.Supervisor.Stage

/-!
  Scm/Control.lean --- the controls that the manager sends to a service.

  Two kinds of control ask the supervisor to stop.  One only asks whether anybody
  is there, and all others are not known here.
-/

set_option autoImplicit false

namespace ServiceSupervisor.Scm

/-- A control. -/
inductive Control where
  | stop
  | shutdown
  | preshutdown
  | interrogate
  | other (name : String)
  deriving DecidableEq, Repr, Inhabited

namespace Control

/-- What the interface calls the control. -/
def name : Control → String
  | stop => "Stop"
  | shutdown => "Shutdown"
  | preshutdown => "Preshutdown"
  | interrogate => "Interrogate"
  | other name => name

/-- The control of a name. -/
def ofName (name : String) : Control :=
  (([stop, shutdown, preshutdown, interrogate] : List Control).find? (·.name == name)).getD
    (other name)

/-- What a control asks of the supervisor. -/
def request? : Control → Option Request
  | stop => some .stop
  | shutdown => some .shutdown
  | preshutdown => some .shutdown
  | _ => none

end Control

/-- What a control is answered with. -/
inductive ControlAnswer where
  | noError
  | notImplemented
  deriving DecidableEq, Repr, Inhabited

/-- What the interface calls the answer. -/
def ControlAnswer.name : ControlAnswer → String
  | noError => "NoError"
  | notImplemented => "NotImplemented"

/-- A control is understood if it asks for something, or only for an answer. -/
def Control.answer (c : Control) : ControlAnswer :=
  if c.request?.isSome || c = .interrogate then .noError else .notImplemented

/-- The request that a control passes on to the supervisor.  Once nobody listens
any more, it is dropped. -/
def Control.handle (listening : Bool) (c : Control) : Logged (Option Request) :=
  match c.request? with
  | none => pure none
  | some r =>
    if listening then pure (some r)
    else do
      Logged.note .host .warn ("dropping " ++ r.name ++ ": supervisor already stopping")
      pure none

end ServiceSupervisor.Scm
