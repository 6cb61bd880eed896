import ServiceSupervisor.Proofs.Service.Replies
import ServiceSupervisor.Service.Script

/-!
  Proofs/Service/AnswerBook.lean --- answers that are told in advance.

  A book tells what the k-th query and the k-th start of each service are answered.  A
  manager that goes by it may be asked anything in between; every script is such a
  manager.
-/

set_option autoImplicit false

namespace ServiceSupervisor

/-- What the queries and the starts of each service are answered, first to last. -/
structure AnswerBook where
  query : String → Nat → Except QueryError Status
  start : String → Nat → Except StartError Unit

namespace AnswerBook

variable {book book' : AnswerBook} {name : String}

/-- The answer to a call that comes after others. -/
def reply (book : AnswerBook) (past : List Call) : Call → Reply
  | .query name => .query name (book.query name (past.count (.query name)))
  | .start name => .start name (book.start name (past.count (.start name)))

/-- The answers to some calls that come after others. -/
def replies (book : AnswerBook) : List Call → List Call → List Reply
  | _, [] => []
  | past, call :: calls => book.reply past call :: book.replies (past ++ [call]) calls

/-- Two books say the same about a service. -/
def AgreeOn (book book' : AnswerBook) (name : String) : Prop :=
  book.query name = book'.query name ∧ book.start name = book'.start name

@[simp] theorem call_reply (book : AnswerBook) (past : List Call) (call : Call) :
    (book.reply past call).call = call := by
  cases call <;> rfl

@[simp] theorem service_reply (book : AnswerBook) (past : List Call) (call : Call) :
    (book.reply past call).service = call.service := by
  cases call <;> rfl

theorem map_call_replies (book : AnswerBook) (past calls : List Call) :
    (book.replies past calls).map Reply.call = calls := by
  induction calls generalizing past with
  | nil => rfl
  | cons call calls ih => simp [replies, ih]

theorem replies_map_call (book : AnswerBook) (past calls : List Call) :
    book.replies past ((book.replies past calls).map Reply.call) = book.replies past calls := by
  rw [map_call_replies]

/-- Calls about other services make no difference to an answer. -/
theorem reply_filter (book : AnswerBook) (past : List Call) {call : Call}
    (hcall : call.service = name) :
    book.reply (past.filter (·.service = name)) call = book.reply past call := by
  cases call with
  | query other =>
    have hcount := List.count_filter (a := Call.query other) (l := past)
      (p := (decide <| ·.service = name)) (by simpa using hcall)
    simp [reply, hcount]
  | start other =>
    have hcount := List.count_filter (a := Call.start other) (l := past)
      (p := (decide <| ·.service = name)) (by simpa using hcall)
    simp [reply, hcount]

/-- So the answers about a service are those to the calls about it. -/
theorem filter_replies (book : AnswerBook) (past calls : List Call) :
    (book.replies past calls).filter (·.service = name) =
      book.replies (past.filter (·.service = name)) (calls.filter (·.service = name)) := by
  induction calls generalizing past with
  | nil => rfl
  | cons call calls ih =>
    by_cases hcall : call.service = name
    · have hreply := reply_filter book past hcall
      simp [replies, hcall, hreply, ih]
    · simp [replies, hcall, ih]

theorem reply_of_agreeOn (h : book.AgreeOn book' name) (past : List Call) {call : Call}
    (hcall : call.service = name) : book.reply past call = book'.reply past call := by
  obtain ⟨hquery, hstart⟩ := h
  cases call with
  | query other =>
    have hother : other = name := hcall
    rw [reply, reply, hother, hquery]
  | start other =>
    have hother : other = name := hcall
    rw [reply, reply, hother, hstart]

theorem replies_of_agreeOn (h : book.AgreeOn book' name) (past : List Call) {calls : List Call}
    (hcalls : ∀ call ∈ calls, call.service = name) :
    book.replies past calls = book'.replies past calls := by
  induction calls generalizing past with
  | nil => rfl
  | cons call calls ih =>
    have hcall := hcalls call List.mem_cons_self
    have hrest := ih (past ++ [call]) fun c hc => hcalls c (List.mem_cons_of_mem _ hc)
    rw [replies, replies, reply_of_agreeOn h past hcall, hrest]

end AnswerBook

/-! ## Managers that go by a book -/

/-- A manager's answers are those of a book, whatever it was asked before. -/
def Manager.GoesBy {σ : Type} (m : Manager σ) (start : σ) (book : AnswerBook) : Prop :=
  ∀ past call, (m.ask (m.after start past) call).1 = book.reply past call

theorem Manager.GoesBy.replies_eq {σ : Type} {m : Manager σ} {start : σ} {book : AnswerBook}
    (h : m.GoesBy start book) (past calls : List Call) :
    m.replies (m.after start past) calls = book.replies past calls := by
  induction calls generalizing past with
  | nil => rfl
  | cons call calls ih =>
    have hafter : (m.ask (m.after start past) call).2 = m.after start (past ++ [call]) := by
      rw [Manager.after_append]
      rfl
    rw [Manager.replies_cons, AnswerBook.replies, h past call, hafter, ih]

/-! ## Scripts -/

/-- The k-th of the queries to come. -/
def ScriptedService.queryAt (e : ScriptedService) (k : Nat) : ScriptedQuery :=
  (Script.entryAt e.queries (e.queried + k)).getD .notFound

/-- The k-th of the starts to come. -/
def ScriptedService.startAt (e : ScriptedService) (k : Nat) : ScriptedStart :=
  (Script.entryAt e.starts (e.started + k)).getD .accepted

namespace Script

/-- The answer to a start. -/
def accept (name : String) : ScriptedStart → Except StartError Unit
  | .accepted => .ok ()
  | .notFound => .error (.notFound name)
  | .host reason => .error (.host name reason)

/-- What a script answers from now on. -/
def book (script : Script) : AnswerBook where
  query name k := answer name ((script.find name).queryAt k)
  start name k := accept name ((script.find name).startAt k)

theorem find?_update (script : Script) (other name : String)
    (f : ScriptedService → ScriptedService) :
    ((script.update other f).services.find? fun e => e.1 = name) =
      (script.services.find? fun e => e.1 = name).map fun e =>
        if e.1 = other then (e.1, f e.2) else e := by
  rw [update, List.find?_map]
  -- an update leaves every name where it is
  have hname : ((fun e : String × ScriptedService => decide (e.1 = name)) ∘ fun e =>
      if e.1 = other then (e.1, f e.2) else e) = fun e => decide (e.1 = name) := by
    funext e
    simp only [Function.comp_apply]
    split <;> rfl
  rw [hname]

/-- What is read off a service after one was updated.  One that the script does not know
stays unknown. -/
theorem apply_find_update {α : Type} (read read' : ScriptedService → α)
    (f : ScriptedService → ScriptedService) (hf : ∀ e, read (f e) = read' e)
    (hnone : read ⟨[], [], 0, 0⟩ = read' ⟨[], [], 0, 0⟩) (script : Script)
    (name other : String) :
    read ((script.update name f).find other) =
      if other = name then read' (script.find other) else read (script.find other) := by
  rw [find, find, find?_update]
  cases hfind : script.services.find? fun e => e.1 = other with
  | none => simp [hnone]
  | some e =>
    have hother : e.1 = other := by simpa using List.find?_some hfind
    by_cases hname : other = name
    · simp [hother, hname, hf]
    · simp [hother, hname]

/-- A query uses up one answer. -/
theorem book_query (script : Script) (name : String) :
    (manager.query name script).2.book = { script.book with
      query := fun other k => script.book.query other (if other = name then k + 1 else k) } := by
  rw [book, AnswerBook.mk.injEq]
  constructor
  · funext other k
    have hread := apply_find_update (·.queryAt k) (·.queryAt (k + 1))
      (fun e => { e with queried := e.queried + 1 })
      (fun e => by simp [ScriptedService.queryAt, Nat.add_assoc, Nat.add_comm 1])
      (by simp [ScriptedService.queryAt, entryAt]) script name other
    simp only [manager, book]
    rw [hread]
    split <;> rfl
  · funext other k
    have hread := apply_find_update (·.startAt k) (·.startAt k)
      (fun e => { e with queried := e.queried + 1 }) (fun e => rfl) rfl script name other
    simp only [manager, book]
    rw [hread, ite_self]

/-- So does a start. -/
theorem book_start (script : Script) (name : String) :
    (manager.start name script).2.book = { script.book with
      start := fun other k => script.book.start other (if other = name then k + 1 else k) } := by
  rw [book, AnswerBook.mk.injEq]
  constructor
  · funext other k
    have hread := apply_find_update (·.queryAt k) (·.queryAt k)
      (fun e => { e with started := e.started + 1 }) (fun e => rfl) rfl script name other
    simp only [manager, book]
    rw [hread, ite_self]
  · funext other k
    have hread := apply_find_update (·.startAt k) (·.startAt (k + 1))
      (fun e => { e with started := e.started + 1 })
      (fun e => by simp [ScriptedService.startAt, Nat.add_assoc, Nat.add_comm 1])
      (by simp [ScriptedService.startAt, entryAt]) script name other
    simp only [manager, book]
    rw [hread]
    split <;> rfl

/-- An answer from the book of later is one from the book of now. -/
theorem reply_book_ask (script : Script) (first call : Call) (past : List Call) :
    (manager.ask script first).2.book.reply past call =
      script.book.reply (first :: past) call := by
  cases first with
  | query name =>
    simp only [Manager.ask, book_query]
    cases call with
    | query other =>
      by_cases hother : other = name
      · simp [AnswerBook.reply, hother]
      · simp [AnswerBook.reply, hother, Ne.symm hother]
    | start other => simp [AnswerBook.reply]
  | start name =>
    simp only [Manager.ask, book_start]
    cases call with
    | query other => simp [AnswerBook.reply]
    | start other =>
      by_cases hother : other = name
      · simp [AnswerBook.reply, hother]
      · simp [AnswerBook.reply, hother, Ne.symm hother]

theorem reply_ask (script : Script) (call : Call) :
    (manager.ask script call).1 = script.book.reply [] call := by
  cases call with
  | query name => rfl
  | start name => rfl

/-- Every script is a manager that goes by a book. -/
theorem goesBy_book (script : Script) : manager.GoesBy script script.book := by
  intro past call
  induction past generalizing script with
  | nil => exact reply_ask script call
  | cons first past ih => rw [Manager.after_cons, ih, reply_book_ask]

end Script

end ServiceSupervisor
