import ServiceSupervisor.Service.Manager

/-!
  Proofs/Service/Replies.lean --- what a service manager answers, call by call.

  A manager may change with every call, so what it answers to some calls is told from
  the state in which it was and from their order.
-/

set_option autoImplicit false

namespace ServiceSupervisor

/-- The service that a call is about. -/
def Call.service : Call → String
  | query name => name
  | start name => name

/-- Whether a start was asked for. -/
def Call.isStart : Call → Bool
  | query _ => false
  | start _ => true

/-- The service that a call starts, if it is a start. -/
def Call.started? : Call → Option String
  | query _ => none
  | start name => some name

/-- What a manager was asked, and what it answered. -/
inductive Reply where
  | query (service : String) (answer : Except QueryError Status)
  | start (service : String) (answer : Except StartError Unit)

namespace Reply

/-- The call that was answered. -/
def call : Reply → Call
  | query name _ => .query name
  | start name _ => .start name

/-- The service that was asked for. -/
def service (r : Reply) : String := r.call.service

@[simp] theorem service_query (name : String) (answer : Except QueryError Status) :
    (query name answer).service = name := rfl

@[simp] theorem service_start (name : String) (answer : Except StartError Unit) :
    (start name answer).service = name := rfl

/-- The status in which a query found its service; a failed one found out nothing. -/
def seen? : Reply → Option (String × Status)
  | query name (.ok status) => some (name, status)
  | query name (.error _) => some (name, .unknown)
  | start _ _ => none

/-- Whether a query was answered with an error. -/
def isFailedQuery : Reply → Bool
  | query _ (.error _) => true
  | _ => false

/-- Whether a start was answered with an error. -/
def isFailedStart : Reply → Bool
  | start _ (.error _) => true
  | _ => false

/-- What a failed query or start is warned of with. -/
def failure? : Reply → Option String
  | query name (.error e) => some (e.message ++ "; treating " ++ name ++ " as unknown this cycle")
  | start _ (.error e) => some e.message
  | _ => none

/-- A failure is one of a query or one of a start. -/
theorem failures_eq (r : Reply) : (if r.failure?.isSome then 1 else 0) =
    (if r.isFailedQuery then 1 else 0) + (if r.isFailedStart then 1 else 0) := by
  rcases r with ⟨name, _ | _⟩ | ⟨name, _ | _⟩ <;> rfl

theorem fst_of_seen? {r : Reply} {name : String} {status : Status}
    (h : r.seen? = some (name, status)) : name = r.service := by
  rcases r with ⟨given, _ | _⟩ | ⟨given, answer⟩
  · cases h
    rfl
  · cases h
    rfl
  · cases h

end Reply

namespace Manager

variable {σ : Type} (m : Manager σ)

/-- Makes a call. -/
def ask (s : σ) : Call → Reply × σ
  | .query name => (.query name (m.query name s).1, (m.query name s).2)
  | .start name => (.start name (m.start name s).1, (m.start name s).2)

/-- The manager's state after some calls. -/
def after (s : σ) (calls : List Call) : σ := calls.foldl (fun s call => (m.ask s call).2) s

/-- What the manager answers to some calls, one after the other. -/
def replies : σ → List Call → List Reply
  | _, [] => []
  | s, call :: calls => (m.ask s call).1 :: replies (m.ask s call).2 calls

@[simp] theorem after_nil (s : σ) : m.after s [] = s := rfl

@[simp] theorem after_cons (s : σ) (call : Call) (calls : List Call) :
    m.after s (call :: calls) = m.after (m.ask s call).2 calls := rfl

theorem after_append (s : σ) (before calls : List Call) :
    m.after s (before ++ calls) = m.after (m.after s before) calls := by
  simp [after]

@[simp] theorem replies_nil (s : σ) : m.replies s [] = [] := rfl

@[simp] theorem replies_cons (s : σ) (call : Call) (calls : List Call) :
    m.replies s (call :: calls) = (m.ask s call).1 :: m.replies (m.ask s call).2 calls := rfl

theorem replies_append (s : σ) (before calls : List Call) :
    m.replies s (before ++ calls) = m.replies s before ++ m.replies (m.after s before) calls := by
  induction before generalizing s with
  | nil => rfl
  | cons call before ih => simp [ih]

@[simp] theorem call_ask (s : σ) (call : Call) : (m.ask s call).1.call = call := by
  cases call <;> rfl

/-- Each call is answered, in its turn. -/
theorem map_call_replies (s : σ) (calls : List Call) :
    (m.replies s calls).map Reply.call = calls := by
  induction calls generalizing s with
  | nil => rfl
  | cons call calls ih => simp [ih]

end Manager

end ServiceSupervisor
