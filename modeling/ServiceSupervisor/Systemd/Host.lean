import ServiceSupervisor.Environment
import ServiceSupervisor.Journal
import ServiceSupervisor.Systemd.Show
import ServiceSupervisor.Systemd.Systemctl
import ServiceSupervisor.Text.Utf8

/-!
  Systemd/Host.lean --- systemd as the service manager.

  Units are queried and started through `systemctl`, with a limit on the time of
  each call.  When a start is refused, the unit's properties tell whether it
  exists; the words of the refusal depend on the user's language and are only
  passed on.
-/

set_option autoImplicit false

namespace ServiceSupervisor.Systemd

/-- The longest time that one call of the monitor may take. -/
def defaultLimit : Duration := .ofSeconds 5

/-- The arguments that pick the instance of systemd. -/
def scopeArgs : Scope → List String
  | .system => []
  | .user => ["--user"]

/-- The arguments with which `systemctl` shows the state of a unit. -/
def showArgs (scope : Scope) (name : String) : List String :=
  scopeArgs scope ++ ["show", "-p", "LoadState", "-p", "ActiveState", "--", name]

/-- The arguments with which `systemctl` is asked to start a unit, and not to wait for
it. -/
def startArgs (scope : Scope) (name : String) : List String :=
  scopeArgs scope ++ ["start", "--no-block", "--", name]

/-- What a program wrote, as text without blanks around it. -/
def complaint (err : List UInt8) : String := Text.trim (Text.Utf8.decodeLossy err)

/-- What is said when `systemctl` could not be run. -/
def notExecuted (e : FileError) : String := "failed to execute systemctl: " ++ e.message

/-- The status told by the call that shows a unit's properties. -/
def statusFrom (limit : Duration) (name : String) : Outcome → Except QueryError Status
  | .notStarted e => .error (.host name (notExecuted e))
  | .timedOut => .error (.timeout name limit)
  | .ended false _ err => .error (.host name (complaint err))
  | .ended true out _ => parseShow name (Text.Utf8.decodeLossy out)

/-- Why a start was refused, given the refusal's words and what the unit's
properties tell. -/
def startFailure (name reason : String) : Except QueryError Status → StartError
  | .error (.notFound _) => .notFound name
  | _ => .host name reason

/-- Asks for the state of a unit. -/
def query (scope : Scope) (limit : Duration) (name : String) (s : Systemctl) :
    Except QueryError Status × Systemctl :=
  let (outcome, s) := s.run (some limit) (showArgs scope name)
  (statusFrom limit name outcome, s)

/-- Asks for a unit to be started; a refusal is looked into by a query. -/
def start (scope : Scope) (limit : Duration) (name : String) (s : Systemctl) :
    Except StartError Unit × Systemctl :=
  match s.run (some limit) (startArgs scope name) with
  | (.notStarted e, s) => (.error (.host name (notExecuted e)), s)
  | (.timedOut, s) => (.error (.host name ("systemctl did not answer within " ++ limit.text)), s)
  | (.ended true _ _, s) => (.ok (), s)
  | (.ended false _ err, s) =>
    let (shown, s) := query scope limit name s
    (.error (startFailure name (complaint err) shown), s)

/-- Systemd as a service manager. -/
def manager (scope : Scope) (limit : Duration) : Manager Systemctl where
  query := query scope limit
  start := start scope limit

/-- The line logged when systemd is chosen as the manager. -/
def connectNote (scope : Scope) : Entry :=
  ⟨.host, .debug, "using " ++ scope.name ++ " systemd instance"⟩

end ServiceSupervisor.Systemd
