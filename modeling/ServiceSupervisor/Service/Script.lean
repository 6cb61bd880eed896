import ServiceSupervisor.Service.Manager

/-!
  Service/Script.lean --- a manager that answers from a script.

  The k-th query for a name takes the k-th answer listed for it, and the last one
  once they are used up; starts likewise.
-/

set_option autoImplicit false

namespace ServiceSupervisor

/-- What a script does at a query. -/
inductive ScriptedQuery where
  | status (s : Status)
  | notFound
  | timeout (limit : Duration)
  | host (reason : String)
  /-- never comes back from the call -/
  | crash
  /-- does not answer until the supervisor has given up on it -/
  | hang
  deriving DecidableEq, Repr, Inhabited

/-- What a script does at a start. -/
inductive ScriptedStart where
  | accepted
  | notFound
  | host (reason : String)
  deriving DecidableEq, Repr, Inhabited

/-- The answers for one name, and how many of them are used. -/
structure ScriptedService where
  queries : List ScriptedQuery
  starts : List ScriptedStart
  queried : Nat
  started : Nat
  deriving DecidableEq, Repr, Inhabited

/-- The services that a script knows. -/
structure Script where
  services : List (String × ScriptedService)
  deriving DecidableEq, Repr, Inhabited

namespace Script

/-- The k-th entry of a list, or its last one if there are fewer. -/
def entryAt {α : Type} (xs : List α) (k : Nat) : Option α := xs[min k (xs.length - 1)]?

/-- What the script says about a service. -/
def find (s : Script) (name : String) : ScriptedService :=
  match s.services.find? fun e => e.1 = name with
  | some e => e.2
  | none => ⟨[], [], 0, 0⟩

/-- Changes what the script says about a service. -/
def update (s : Script) (name : String) (f : ScriptedService → ScriptedService) : Script :=
  ⟨s.services.map fun e => if e.1 = name then (e.1, f e.2) else e⟩

/-- What the script is about to do at a query for `name`. -/
def nextQuery (s : Script) (name : String) : ScriptedQuery :=
  (entryAt (s.find name).queries (s.find name).queried).getD .notFound

/-- How the next start of a service is answered. -/
def nextStart (s : Script) (name : String) : ScriptedStart :=
  (entryAt (s.find name).starts (s.find name).started).getD .accepted

/-- The answer to a query.  One that hangs is answered in the end; one that
crashes has none, and counts as an unknown service. -/
def answer (name : String) : ScriptedQuery → Except QueryError Status
  | .status st => .ok st
  | .notFound => .error (.notFound name)
  | .timeout limit => .error (.timeout name limit)
  | .host reason => .error (.host name reason)
  | .crash => .error (.notFound name)
  | .hang => .ok .running

/-- The manager that follows a script. -/
def manager : Manager Script where
  query name s :=
    (answer name (s.nextQuery name), s.update name fun e => { e with queried := e.queried + 1 })
  start name s :=
    (match s.nextStart name with
      | .accepted => .ok ()
      | .notFound => .error (.notFound name)
      | .host reason => .error (.host name reason),
     s.update name fun e => { e with started := e.started + 1 })

end Script

end ServiceSupervisor
