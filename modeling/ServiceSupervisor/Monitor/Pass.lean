import ServiceSupervisor.Journal
import ServiceSupervisor.Service.Manager
import ServiceSupervisor.Settings.WatchPlan

/-!
  Monitor/Pass.lean --- one pass over the watched services.

  A pass queries each service once, in the order of the plan, and requests a
  start of those found stopped.  What goes wrong with one service is logged and
  counted, and the pass goes on with the next.
-/

set_option autoImplicit false

namespace ServiceSupervisor

/-- What one pass has seen and done so far. -/
structure PassReport where
  observed : List (String × Status)
  restarts : Nat
  queryFailures : Nat
  startFailures : Nat
  deriving DecidableEq, Repr, Inhabited

namespace PassReport

/-- The report on a pass that has not begun. -/
def empty : PassReport := ⟨[], 0, 0, 0⟩

/-- Takes down a query's answer; a failed one counts as an unknown status. -/
def observe (r : PassReport) (name : String) : Except QueryError Status → PassReport
  | .ok s => { r with observed := r.observed ++ [(name, s)] }
  | .error _ =>
    { r with observed := r.observed ++ [(name, .unknown)], queryFailures := r.queryFailures + 1 }

/-- Takes down that a start is requested. -/
def request (r : PassReport) : PassReport := { r with restarts := r.restarts + 1 }

/-- Takes down what became of the request. -/
def settle (r : PassReport) : Except StartError Unit → PassReport
  | .ok () => r
  | .error _ => { r with startFailures := r.startFailures + 1 }

end PassReport

namespace Monitor

/-- What is logged about a query's answer. -/
def queryNotes (name : String) : Except QueryError Status → List Entry
  | .ok s => [⟨.monitor, .debug, name ++ " is " ++ s.name⟩]
  | .error e =>
    [⟨.monitor, .warn, e.message ++ "; treating " ++ name ++ " as unknown this cycle"⟩,
     ⟨.monitor, .debug, name ++ " is " ++ Status.unknown.name⟩]

/-- What is logged before a start is requested. -/
def startNote (name : String) : Entry := ⟨.monitor, .info, name ++ " is stopped; requesting start"⟩

/-- What is logged about a start's answer. -/
def startNotes : Except StartError Unit → List Entry
  | .ok () => []
  | .error e => [⟨.monitor, .warn, e.message⟩]

/-- Whether a query's answer asks for a start. -/
def asksStart : Except QueryError Status → Bool
  | .ok s => s = .stopped
  | .error _ => false

/-- A pass under way: the manager's state, the calls made and the lines logged. -/
structure PassState (σ : Type) where
  host : σ
  report : PassReport
  calls : List Call
  log : List Entry
  deriving Repr

/-- Queries a service and takes down the answer. -/
def query {σ : Type} (m : Manager σ) (s : PassState σ) (name : String) : PassState σ :=
  let (answer, host) := m.query name s.host
  ⟨host, s.report.observe name answer, s.calls ++ [.query name], s.log ++ queryNotes name answer⟩

/-- Requests the start of a service and takes down the answer. -/
def start {σ : Type} (m : Manager σ) (s : PassState σ) (name : String) : PassState σ :=
  let (answer, host) := m.start name s.host
  ⟨host, s.report.request.settle answer, s.calls ++ [.start name],
   s.log ++ startNote name :: startNotes answer⟩

/-- Queries a service, and requests its start if it is stopped. -/
def visit {σ : Type} (m : Manager σ) (s : PassState σ) (name : String) : PassState σ :=
  if asksStart (m.query name s.host).1 then start m (query m s name) name else query m s name

/-- One pass over the services, in order. -/
def pass {σ : Type} (m : Manager σ) (services : List String) (host : σ) : PassState σ :=
  services.foldl (visit m) ⟨host, .empty, [], []⟩

/-- Several passes, one after the other: the manager's state and the calls made. -/
def rounds {σ : Type} (m : Manager σ) (services : List String) (host : σ) : Nat → σ × List Call
  | 0 => (host, [])
  | n + 1 =>
    let (host, calls) := rounds m services host n
    let s := pass m services host
    (s.host, calls ++ s.calls)

/-- The line logged at the end of a pass. -/
def passNote (count : Nat) (r : PassReport) : Entry :=
  ⟨.monitor, .debug, "cycle " ++ toString count ++ ": " ++ toString r.observed.length ++
    " services, " ++ toString r.restarts ++ " restarts requested, " ++ toString r.queryFailures ++
    " query failures, " ++ toString r.startFailures ++ " start failures"⟩

end Monitor

end ServiceSupervisor
