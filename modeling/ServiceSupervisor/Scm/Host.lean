import ServiceSupervisor.Scm.Api
import ServiceSupervisor.Service.Manager

/-!
  Scm/Host.lean --- the Windows service control manager as the service manager.

  Each query and each start opens the manager and the service anew, with just the
  access it needs.
-/

set_option autoImplicit false

namespace ServiceSupervisor.Scm

open Session

namespace Access

/-- The right to connect to the manager. -/
def connect : Nat := 0x1

/-- The right to create services. -/
def createService : Nat := 0x2

/-- The right to ask for a service's state. -/
def queryStatus : Nat := 0x4

/-- The right to start a service. -/
def start : Nat := 0x10

/-- The right to stop a service. -/
def stop : Nat := 0x20

/-- All rights to a service. -/
def all : Nat := 0xf01ff

end Access

/-- The number that stands for a stopped service. -/
def stoppedState : Nat := 1

/-- The status that a state's number stands for. -/
def statusOf (state : Nat) : Status :=
  if state = stoppedState then .stopped
  else if state = 4 then .running
  else if state = 7 then .paused
  else if state ∈ [2, 3, 5, 6] then .pending
  else .unknown

/-- Goes on with a handle of the manager. -/
def withManager {ε α : Type} (wrap : Win32Error → ε) (access : Nat) (body : Nat → Session ε α) :
    Session ε α :=
  holding (mapError wrap (acquire (.openManager access))) .closeHandle body

/-- Goes on with a handle of a service. -/
def withService {ε α : Type} (wrap : Win32Error → ε) (manager : Nat) (name : String)
    (access : Nat) (body : Nat → Session ε α) : Session ε α :=
  holding (mapError wrap (acquire (.openService manager (seen name) access))) .closeHandle body

/-- Why a query of `name` failed. -/
def queryError (name : String) (e : Win32Error) : QueryError :=
  if e.code = Win32Error.noSuchService then .notFound name else .host name e.text

/-- Why a start of `name` failed. -/
def startError (name : String) (e : Win32Error) : StartError :=
  if e.code = Win32Error.noSuchService then .notFound name else .host name e.text

/-- Asks for the state of a service, through handles that are closed again. -/
def query (name : String) : Session QueryError Status :=
  withManager (queryError name) Access.connect fun manager =>
    withService (queryError name) manager name Access.queryStatus fun service => do
      let state ← mapError (queryError name) (call (.queryStatus service))
      pure (statusOf state)

/-- A start that fails because somebody else was faster is a success. -/
def acceptRunning (name : String) : Except Win32Error Nat → Except StartError Unit
  | .ok _ => .ok ()
  | .error e =>
    if e.code = Win32Error.alreadyRunning then .ok () else .error (startError name e)

/-- Asks for a service to be started; one that runs already is as good. -/
def start (name : String) : Session StartError Unit :=
  withManager (startError name) Access.connect fun manager =>
    withService (startError name) manager name Access.start fun service => fun i =>
      let (r, i) := call (.startService service) i
      (acceptRunning name r, i)

/-- The Windows service control manager as a service manager. -/
def manager : Manager Interface where
  query name := query name
  start name := start name

/-- Looks whether the manager can be reached at all. -/
def connect : Session Win32Error Unit := withManager id Access.connect fun _ => pure ()

/-- What is said when it cannot. -/
def connectFailure (e : Win32Error) : String :=
  "Failed to open Service Control Manager: " ++ e.text

end ServiceSupervisor.Scm
