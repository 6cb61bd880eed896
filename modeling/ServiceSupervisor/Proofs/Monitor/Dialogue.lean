import ServiceSupervisor.Proofs.Monitor.Pass
import ServiceSupervisor.Proofs.Service.Replies
import ServiceSupervisor.Proofs.Settings.WatchPlan
import ServiceSupervisor.Service.Script

/-!
  Proofs/Monitor/Dialogue.lean --- what a pass asks, and what it makes of the answers.

  A pass queries every service in its turn and starts at once the one that it finds
  stopped, whatever the other answers were.  Its report and its warnings are told from
  the answers alone.
-/

set_option autoImplicit false

namespace ServiceSupervisor.Monitor

variable {σ : Type} {m : Manager σ} {start : σ} {s : PassState σ} {services : List String}
  {replies : List Reply} {name : String}

/-! ## The order of the calls -/

/-- How a pass over some services goes. -/
inductive Dialogue : List String → List Reply → Prop
  | done : Dialogue [] []
  /-- a service that was not found stopped is left alone -/
  | leaves {name : String} {answer : Except QueryError Status} {services : List String}
      {replies : List Reply} (hanswer : answer ≠ .ok .stopped) (rest : Dialogue services replies) :
      Dialogue (name :: services) (.query name answer :: replies)
  /-- one that was is started next -/
  | starts {name : String} {answer : Except StartError Unit} {services : List String}
      {replies : List Reply} (rest : Dialogue services replies) :
      Dialogue (name :: services) (.query name (.ok .stopped) :: .start name answer :: replies)

theorem Dialogue.append {more : List String} {replies' : List Reply}
    (h : Dialogue services replies) (h' : Dialogue more replies') :
    Dialogue (services ++ more) (replies ++ replies') := by
  induction h with
  | done => exact h'
  | leaves hanswer _ ih => exact .leaves hanswer ih
  | starts _ ih => exact .starts ih

theorem Dialogue.count_query (h : Dialogue services replies) (name : String) :
    (replies.map Reply.call).count (.query name) = services.count name := by
  induction h with
  | done => rfl
  | leaves _ _ ih => simp [Reply.call, List.count_cons, ih]
  | starts _ ih => simp [Reply.call, List.count_cons, ih]

theorem Dialogue.count_start_le (h : Dialogue services replies) (name : String) :
    (replies.map Reply.call).count (.start name) ≤ services.count name := by
  induction h with
  | done => exact Nat.le_refl 0
  | @leaves other answer services replies _ _ ih =>
    rw [List.map_cons, List.count_cons_of_ne (by simp [Reply.call])]
    exact Nat.le_trans ih List.count_le_count_cons
  | @starts other answer services replies _ ih =>
    rw [List.map_cons, List.map_cons, List.count_cons_of_ne (by simp [Reply.call])]
    simpa [Reply.call, List.count_cons] using ih

/-- Services are started in the order in which they are visited. -/
theorem Dialogue.started_sublist (h : Dialogue services replies) :
    ((replies.map Reply.call).filterMap Call.started?).Sublist services := by
  induction h with
  | done => exact .slnil
  | leaves _ _ ih => exact .cons _ ih
  | starts _ ih => exact .cons_cons _ ih

/-- Every service is asked about, and no other. -/
theorem Dialogue.service_mem (h : Dialogue services replies) {reply : Reply}
    (hreply : reply ∈ replies) : reply.service ∈ services := by
  induction h with
  | done => cases hreply
  | leaves _ _ ih =>
    rcases List.mem_cons.mp hreply with rfl | hrest
    · exact List.mem_cons_self
    · exact List.mem_cons_of_mem _ (ih hrest)
  | starts _ ih =>
    rcases List.mem_cons.mp hreply with rfl | hreply
    · exact List.mem_cons_self
    · rcases List.mem_cons.mp hreply with rfl | hrest
      · exact List.mem_cons_self
      · exact List.mem_cons_of_mem _ (ih hrest)

/-- Every service was seen in its turn. -/
theorem Dialogue.seen (h : Dialogue services replies) :
    (replies.filterMap Reply.seen?).map Prod.fst = services := by
  induction h with
  | done => rfl
  | @leaves name answer services replies _ _ ih =>
    cases answer with
    | error e => exact congrArg (List.cons name) ih
    | ok status => exact congrArg (List.cons name) ih
  | @starts name answer services replies _ ih => exact congrArg (List.cons name) ih

/-- A visit asks about its service as it should. -/
theorem dialogue_visit (m : Manager σ) (s : PassState σ) (name : String) :
    ∃ asked, (visit m s name).calls = s.calls ++ asked ∧
      Dialogue [name] (m.replies s.host asked) := by
  cases h : asksStart (m.query name s.host).1 with
  | true =>
    have hstopped : (m.query name s.host).1 = .ok .stopped := by
      cases hanswer : (m.query name s.host).1 with
      | error e => simp [asksStart, hanswer] at h
      | ok status => simpa [asksStart, hanswer] using h
    refine ⟨[.query name, .start name], ?_, ?_⟩
    · rw [visit_of_asksStart m h]
      simp
    · simp only [Manager.replies_cons, Manager.replies_nil, Manager.ask, hstopped]
      exact .starts .done
  | false =>
    have hleft : (m.query name s.host).1 ≠ .ok .stopped := by
      intro hstopped
      simp [asksStart, hstopped] at h
    refine ⟨[.query name], ?_, ?_⟩
    · rw [visit_of_not_asksStart m h, calls_query]
    · simp only [Manager.replies_cons, Manager.replies_nil, Manager.ask]
      exact .leaves hleft .done

/-! ## What is made of the answers -/

/-- The warnings among some logged lines. -/
def warnings (log : List Entry) : List Entry := log.filter (·.level = .warn)

/-- The warnings that some answers call for, one for each failure. -/
def warningsOf (replies : List Reply) : List Entry :=
  (replies.filterMap Reply.failure?).map (⟨.monitor, .warn, ·⟩)

/-- One more call was answered in a pass, and the answer taken down. -/
structure Takes (reply : Reply) (s s' : PassState σ) : Prop where
  calls_eq : s'.calls = s.calls ++ [reply.call]
  observed_eq : s'.report.observed = s.report.observed ++ [reply].filterMap Reply.seen?
  restarts_eq : s'.report.restarts = s.report.restarts + [reply.call].countP Call.isStart
  queryFailures_eq :
    s'.report.queryFailures = s.report.queryFailures + [reply].countP Reply.isFailedQuery
  startFailures_eq :
    s'.report.startFailures = s.report.startFailures + [reply].countP Reply.isFailedStart
  warnings_eq : warnings s'.log = warnings s.log ++ warningsOf [reply]

theorem takes_query (m : Manager σ) (s : PassState σ) (name : String) :
    Takes (m.ask s.host (.query name)).1 s (query m s name) := by
  simp only [Manager.ask, query]
  generalize (m.query name s.host).1 = answer
  cases answer with
  | error e =>
    exact ⟨rfl, rfl, rfl, rfl, rfl, List.filter_append _ (queryNotes name (.error e))⟩
  | ok status =>
    refine ⟨rfl, rfl, rfl, rfl, rfl, ?_⟩
    exact List.filter_append _ (queryNotes name (.ok status))

theorem takes_start (m : Manager σ) (s : PassState σ) (name : String) :
    Takes (m.ask s.host (.start name)).1 s (Monitor.start m s name) := by
  simp only [Manager.ask, Monitor.start]
  generalize (m.start name s.host).1 = answer
  cases answer with
  | error e =>
    refine ⟨rfl, (List.append_nil _).symm, rfl, rfl, rfl, ?_⟩
    exact List.filter_append _ (startNote name :: startNotes (.error e))
  | ok done =>
    refine ⟨rfl, (List.append_nil _).symm, rfl, rfl, rfl, ?_⟩
    exact List.filter_append _ (startNote name :: startNotes (.ok done))

/-- The manager, the report and the warnings of a pass are what its calls and their
answers come to. -/
structure Tallies (m : Manager σ) (start : σ) (s : PassState σ) : Prop where
  host_eq : s.host = m.after start s.calls
  observed_eq : s.report.observed = (m.replies start s.calls).filterMap Reply.seen?
  restarts_eq : s.report.restarts = s.calls.countP Call.isStart
  queryFailures_eq :
    s.report.queryFailures = (m.replies start s.calls).countP Reply.isFailedQuery
  startFailures_eq :
    s.report.startFailures = (m.replies start s.calls).countP Reply.isFailedStart
  warnings_eq : warnings s.log = warningsOf (m.replies start s.calls)

theorem tallies_empty (m : Manager σ) (start : σ) : Tallies m start ⟨start, .empty, [], []⟩ :=
  ⟨rfl, rfl, rfl, rfl, rfl, rfl⟩

theorem Tallies.snoc (h : Tallies m start s) {call : Call} {s' : PassState σ}
    (htakes : Takes (m.ask s.host call).1 s s') (hhost : s'.host = (m.ask s.host call).2) :
    Tallies m start s' := by
  have hcalls : s'.calls = s.calls ++ [call] := by
    rw [htakes.calls_eq, Manager.call_ask]
  have hreplies : m.replies start s'.calls =
      m.replies start s.calls ++ [(m.ask s.host call).1] := by
    rw [hcalls, Manager.replies_append, ← h.host_eq]
    rfl
  constructor
  · rw [hhost, hcalls, Manager.after_append, ← h.host_eq]
    rfl
  · rw [htakes.observed_eq, hreplies, List.filterMap_append, h.observed_eq]
  · rw [htakes.restarts_eq, htakes.calls_eq, List.countP_append, h.restarts_eq]
  · rw [htakes.queryFailures_eq, hreplies, List.countP_append, h.queryFailures_eq]
  · rw [htakes.startFailures_eq, hreplies, List.countP_append, h.startFailures_eq]
  · rw [htakes.warnings_eq, hreplies, h.warnings_eq]
    simp [warningsOf]

theorem Tallies.visit (h : Tallies m start s) (name : String) :
    Tallies m start (Monitor.visit m s name) := by
  have hquery : Tallies m start (query m s name) := h.snoc (takes_query m s name) rfl
  cases hasks : asksStart (m.query name s.host).1 with
  | true =>
    rw [visit_of_asksStart m hasks]
    exact hquery.snoc (takes_start m (query m s name) name) rfl
  | false =>
    rw [visit_of_not_asksStart m hasks]
    exact hquery

theorem tallies_pass (m : Manager σ) (services : List String) (start : σ) :
    Tallies m start (pass m services start) := by
  induction services using List.reverseRecOn with
  | nil => exact tallies_empty m start
  | append_singleton services name ih =>
    rw [pass_snoc]
    exact ih.visit name

theorem dialogue_pass (m : Manager σ) (services : List String) (start : σ) :
    Dialogue services (m.replies start (pass m services start).calls) := by
  induction services using List.reverseRecOn with
  | nil => exact .done
  | append_singleton services name ih =>
    obtain ⟨asked, hcalls, hvisit⟩ := dialogue_visit m (pass m services start) name
    rw [(tallies_pass m services start).host_eq] at hvisit
    rw [pass_snoc, hcalls, Manager.replies_append]
    exact ih.append hvisit

/-- A failure is one of a query or of a start. -/
theorem length_warningsOf (replies : List Reply) :
    (warningsOf replies).length =
      replies.countP Reply.isFailedQuery + replies.countP Reply.isFailedStart := by
  rw [warningsOf, List.length_map, List.length_filterMap_eq_countP]
  induction replies with
  | nil => rfl
  | cons reply replies ih =>
    have hone := reply.failures_eq
    rw [List.countP_cons, List.countP_cons, List.countP_cons, ih]
    omega

theorem service_mem_pass (m : Manager σ) (services : List String) (start : σ) :
    ∀ call ∈ (pass m services start).calls, call.service ∈ services := by
  intro call hcall
  rw [← m.map_call_replies start (pass m services start).calls] at hcall
  obtain ⟨reply, hreply, rfl⟩ := List.mem_map.mp hcall
  exact (dialogue_pass m services start).service_mem hreply

/-! ## The main statement -/

/-- What a pass over some services has done, and what it has made of it. -/
structure Attends (m : Manager σ) (services : List String) (start : σ) (s : PassState σ) : Prop
    extends Tallies m start s where
  /-- it queried each service in its turn, and started at once the one found stopped -/
  dialogue : Dialogue services (m.replies start s.calls)
  /-- so each was queried once and started at most once, -/
  once : ∀ name ∈ services, s.calls.count (.query name) = 1 ∧ s.calls.count (.start name) ≤ 1
  /-- and nothing else was asked about -/
  service_mem : ∀ call ∈ s.calls, call.service ∈ services
  /-- each was observed once, in order, -/
  services_eq : s.report.observed.map Prod.fst = services
  /-- and each failure was counted and warned of -/
  failures_eq : s.report.queryFailures + s.report.startFailures = (warnings s.log).length

/-- Whatever a manager answers, a pass over the services of a plan attends to each of
them. -/
theorem attends_pass {listed : List String} {poll initial : Duration} {plan : WatchPlan}
    (hplan : (WatchPlan.make listed poll initial).value = .ok plan) (m : Manager σ) (start : σ) :
    Attends m plan.services start (pass m plan.services start) := by
  have hnodup := (WatchPlan.listable_make hplan).nodup
  have htallies := tallies_pass m plan.services start
  have hdialogue := dialogue_pass m plan.services start
  have hservice := service_mem_pass m plan.services start
  generalize pass m plan.services start = s at htallies hdialogue hservice ⊢
  have hcalls := Manager.map_call_replies m start s.calls
  refine ⟨htallies, hdialogue, ?_, hservice, ?_, ?_⟩
  · intro name hname
    have hcount := List.count_eq_one_of_mem hnodup hname
    have hquery := hdialogue.count_query name
    have hstart := hdialogue.count_start_le name
    rw [hcalls, hcount] at hquery hstart
    exact ⟨hquery, hstart⟩
  · rw [htallies.observed_eq]
    exact hdialogue.seen
  · rw [htallies.queryFailures_eq, htallies.startFailures_eq, htallies.warnings_eq,
      length_warningsOf]

/-- One service is found stopped and refuses to start, one cannot be queried, and a third
is started all the same. -/
theorem attends_script :
    let script : Script :=
      ⟨[("a", ⟨[.status .stopped], [.host "no"], 0, 0⟩), ("b", ⟨[.notFound], [], 0, 0⟩),
        ("c", ⟨[.status .stopped], [.accepted], 0, 0⟩)]⟩
    let plan : WatchPlan := ⟨["a", "b", "c"], .ofSeconds 1, .ofSeconds 0⟩
    let s := pass Script.manager plan.services script
    (WatchPlan.make [" a", "b", "a ", "c"] (.ofSeconds 1) (.ofSeconds 0)).value = .ok plan ∧
      Attends Script.manager plan.services script s ∧
      s.calls = [.query "a", .start "a", .query "b", .query "c", .start "c"] ∧
      s.report = ⟨[("a", .stopped), ("b", .unknown), ("c", .stopped)], 2, 1, 1⟩ := by
  have hplan : (WatchPlan.make [" a", "b", "a ", "c"] (.ofSeconds 1) (.ofSeconds 0)).value =
      .ok ⟨["a", "b", "c"], .ofSeconds 1, .ofSeconds 0⟩ := by rfl
  exact ⟨hplan, attends_pass hplan _ _, by decide, by decide⟩

end ServiceSupervisor.Monitor
