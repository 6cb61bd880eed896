import ServiceSupervisor.Duration

/-!
  Service/Manager.lean --- what is asked of a service manager, and what it answers.

  The supervisor asks two things of a manager: what a service is doing, and that
  it be started.  A start is answered when it is accepted, not when the service
  runs.  A manager may change with every call, so its answers may depend on
  everything it was asked before.
-/

set_option autoImplicit false

namespace ServiceSupervisor

/-- What a service was seen to be doing. -/
inductive Status where
  | running
  | stopped
  /-- starting, stopping or otherwise between the two -/
  | pending
  | paused
  /-- nobody could tell -/
  | unknown
  deriving DecidableEq, Repr, Inhabited

/-- What a log line calls the status. -/
def Status.name : Status → String
  | running => "running"
  | stopped => "stopped"
  | pending => "pending"
  | paused => "paused"
  | unknown => "unknown"

/-- Why a query was not answered. -/
inductive QueryError where
  | notFound (service : String)
  | timeout (service : String) (limit : Duration)
  | host (service reason : String)
  deriving DecidableEq, Repr, Inhabited

/-- What is said about the error. -/
def QueryError.message : QueryError → String
  | notFound service => "service " ++ service ++ " does not exist"
  | timeout service limit => "status query for " ++ service ++ " timed out after " ++ limit.text
  | host service reason => "failed to query status of " ++ service ++ ": " ++ reason

/-- Why a start was not accepted. -/
inductive StartError where
  | notFound (service : String)
  | host (service reason : String)
  deriving DecidableEq, Repr, Inhabited

/-- What is said about the error. -/
def StartError.message : StartError → String
  | notFound service => "service " ++ service ++ " does not exist"
  | host service reason => "failed to request start of " ++ service ++ ": " ++ reason

/-- One thing asked of a manager. -/
inductive Call where
  | query (service : String)
  | start (service : String)
  deriving DecidableEq, Repr, Inhabited

/-- A service manager in a state `σ`. -/
structure Manager (σ : Type) where
  query : String → σ → Except QueryError Status × σ
  start : String → σ → Except StartError Unit × σ

end ServiceSupervisor
