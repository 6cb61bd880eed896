import ServiceSupervisor.Proofs.Monitor.Dialogue
import ServiceSupervisor.Proofs.Service.AnswerBook

/-!
  Proofs/Monitor/Isolation.lean --- what is done to one service does not hang on the others.

  Where a manager's answers about a service depend on nothing but how often it was
  asked the same, passes over many services treat each of them as passes over that
  service alone would.  The calls about a service and the answers to them determine each
  other, so two courses of passes that agree about it so far go on to agree.
-/

set_option autoImplicit false

namespace ServiceSupervisor.Monitor

variable {σ τ : Type} {m : Manager σ} {m' : Manager τ} {start : σ} {start' : τ}
  {book book' : AnswerBook} {services services' : List String} {name : String}

/-! ## One dialogue about one service -/

/-- What a dialogue says about one service is a dialogue about it alone. -/
theorem Dialogue.filter {replies : List Reply} (h : Dialogue services replies) (name : String) :
    Dialogue (services.filter (· = name)) (replies.filter (·.service = name)) := by
  induction h with
  | done => exact .done
  | @leaves other answer services replies hanswer _ ih =>
    by_cases hother : other = name
    · simpa [hother] using .leaves hanswer ih
    · simpa [hother] using ih
  | @starts other answer services replies _ ih =>
    by_cases hother : other = name
    · simpa [hother] using .starts ih
    · simpa [hother] using ih

/-- The answers in a book leave a pass no choice. -/
theorem Dialogue.unique {replies replies' : List Reply} {past : List Call}
    (h : Dialogue services replies) (h' : Dialogue services replies')
    (hreplies : book.replies past (replies.map Reply.call) = replies)
    (hreplies' : book.replies past (replies'.map Reply.call) = replies') :
    replies = replies' := by
  induction h generalizing replies' past with
  | done =>
    cases h'
    rfl
  | leaves hanswer _ ih =>
    obtain ⟨hfirst, hrest⟩ := List.cons.inj hreplies
    cases h' with
    | leaves hanswer' h' =>
      obtain ⟨hfirst', hrest'⟩ := List.cons.inj hreplies'
      cases hfirst.symm.trans hfirst'
      rw [ih h' hrest hrest']
    | starts h' =>
      obtain ⟨hfirst', -⟩ := List.cons.inj hreplies'
      cases hfirst.symm.trans hfirst'
      exact absurd rfl hanswer
  | starts _ ih =>
    obtain ⟨hfirst, hrest⟩ := List.cons.inj hreplies
    cases h' with
    | leaves hanswer' h' =>
      obtain ⟨hfirst', -⟩ := List.cons.inj hreplies'
      cases hfirst.symm.trans hfirst'
      exact absurd rfl hanswer'
    | starts h' =>
      obtain ⟨-, hrest'⟩ := List.cons.inj hreplies'
      obtain ⟨hsecond, hrest⟩ := List.cons.inj hrest
      obtain ⟨hsecond', hrest'⟩ := List.cons.inj hrest'
      cases hsecond.symm.trans hsecond'
      rw [ih h' hrest hrest']

/-! ## Passes -/

/-- Two watches of a service that are to be compared: by managers that answer alike about
it, and each among services listed once. -/
structure Alike (m : Manager σ) (m' : Manager τ) (start : σ) (start' : τ)
    (services services' : List String) (name : String) : Prop where
  answers : ∃ book book', m.GoesBy start book ∧ m'.GoesBy start' book' ∧ book.AgreeOn book' name
  nodup : services.Nodup
  nodup' : services'.Nodup
  mem : name ∈ services
  mem' : name ∈ services'

theorem filter_eq_singleton (hnodup : services.Nodup) (hname : name ∈ services) :
    services.filter (· = name) = [name] := by
  rw [List.filter_eq, List.count_eq_one_of_mem hnodup hname]
  rfl

/-- What a pass that goes by a book is answered about a service. -/
theorem dialogue_about (hbook : m.GoesBy start book) (hnodup : services.Nodup)
    (hname : name ∈ services) (past : List Call) :
    Dialogue [name] (book.replies (past.filter (·.service = name))
      ((pass m services (m.after start past)).calls.filter (·.service = name))) := by
  have hdialogue := (dialogue_pass m services (m.after start past)).filter name
  rw [hbook.replies_eq, AnswerBook.filter_replies, filter_eq_singleton hnodup hname] at hdialogue
  exact hdialogue

/-- If the calls about a service were the same, those of the next pass are. -/
theorem Alike.filter_pass (h : Alike m m' start start' services services' name)
    {past past' : List Call}
    (hpast : past.filter (·.service = name) = past'.filter (·.service = name)) :
    (m.replies (m.after start past) (pass m services (m.after start past)).calls).filter
        (·.service = name) =
      (m'.replies (m'.after start' past') (pass m' services' (m'.after start' past')).calls).filter
        (·.service = name) := by
  obtain ⟨⟨book, book', hbook, hbook', hagree⟩, hnodup, hnodup', hname, hname'⟩ := h
  have hdialogue := dialogue_about hbook hnodup hname past
  have hdialogue' := dialogue_about hbook' hnodup' hname' past'
  have hsame : ∀ past (calls : List Call), book'.replies past (calls.filter (·.service = name)) =
      book.replies past (calls.filter (·.service = name)) := by
    intro past calls
    refine (AnswerBook.replies_of_agreeOn hagree past ?_).symm
    intro call hcall
    simpa using (List.mem_filter.mp hcall).2
  rw [← hpast, hsame] at hdialogue'
  rw [hbook.replies_eq, hbook'.replies_eq, AnswerBook.filter_replies, AnswerBook.filter_replies,
    ← hpast, hsame]
  exact hdialogue.unique hdialogue' (book.replies_map_call _ _) (book.replies_map_call _ _)

/-! ## Courses of passes -/

/-- What some passes have asked, what they were answered, and what each has observed. -/
structure Course where
  calls : List Call
  replies : List Reply
  observed : List (List (String × Status))

/-- What a course says about one service. -/
def Course.about (c : Course) (name : String) : Course where
  calls := c.calls.filter (·.service = name)
  replies := c.replies.filter (·.service = name)
  observed := c.observed.map (·.filter (·.1 = name))

/-- A number of passes over some services. -/
def course (m : Manager σ) (services : List String) (start : σ) (n : Nat) : Course where
  calls := (rounds m services start n).2
  replies := m.replies start (rounds m services start n).2
  observed := (List.range n).map fun k =>
    (pass m services (rounds m services start k).1).report.observed

/-- Each pass finds the manager as the calls of those before have left it. -/
theorem host_rounds (m : Manager σ) (services : List String) (start : σ) (n : Nat) :
    (rounds m services start n).1 = m.after start (rounds m services start n).2 := by
  induction n with
  | zero => rfl
  | succ n ih =>
    have hpass := (tallies_pass m services (rounds m services start n).1).host_eq
    simp only [rounds]
    rw [hpass, Manager.after_append, ih]

/-- What was asked is told from what was answered. -/
theorem filter_calls {replies replies' : List Reply} {calls calls' : List Call}
    (hcalls : replies.map Reply.call = calls) (hcalls' : replies'.map Reply.call = calls')
    (h : replies.filter (·.service = name) = replies'.filter (·.service = name)) :
    calls.filter (·.service = name) = calls'.filter (·.service = name) := by
  rw [← hcalls, ← hcalls', List.filter_map, List.filter_map]
  exact congrArg (List.map Reply.call) h

/-- So is what was observed. -/
theorem filter_observed (replies : List Reply) (name : String) :
    (replies.filterMap Reply.seen?).filter (·.1 = name) =
      (replies.filter (·.service = name)).filterMap Reply.seen? := by
  induction replies with
  | nil => rfl
  | cons reply replies ih =>
    cases hseen : reply.seen? with
    | none =>
      rw [List.filterMap_cons_none hseen, List.filter_cons, ih]
      split
      · rw [List.filterMap_cons_none hseen]
      · rfl
    | some seen =>
      have hname : seen.1 = reply.service := Reply.fst_of_seen? hseen
      rw [List.filterMap_cons_some hseen, List.filter_cons, List.filter_cons, hname, ih]
      split
      · rw [List.filterMap_cons_some hseen]
      · rfl

/-- Passes go on to ask the same about a service. -/
theorem Alike.filter_rounds (h : Alike m m' start start' services services' name) (n : Nat) :
    (rounds m services start n).2.filter (·.service = name) =
      (rounds m' services' start' n).2.filter (·.service = name) := by
  induction n with
  | zero => rfl
  | succ n ih =>
    have hnext := filter_calls (Manager.map_call_replies _ _ _) (Manager.map_call_replies _ _ _)
      (h.filter_pass ih)
    rw [← host_rounds, ← host_rounds] at hnext
    simp only [rounds]
    rw [List.filter_append, List.filter_append, ih, hnext]

theorem Alike.filter_replies_rounds (h : Alike m m' start start' services services' name)
    (n : Nat) :
    (m.replies start (rounds m services start n).2).filter (·.service = name) =
      (m'.replies start' (rounds m' services' start' n).2).filter (·.service = name) := by
  have hcalls := h.filter_rounds n
  obtain ⟨book, book', hbook, hbook', hagree⟩ := h.answers
  have hreplies := hbook.replies_eq [] (rounds m services start n).2
  have hreplies' := hbook'.replies_eq [] (rounds m' services' start' n).2
  rw [Manager.after_nil] at hreplies hreplies'
  rw [hreplies, hreplies', AnswerBook.filter_replies, AnswerBook.filter_replies, hcalls]
  refine AnswerBook.replies_of_agreeOn hagree _ ?_
  intro call hcall
  simpa using (List.mem_filter.mp hcall).2

theorem Alike.filter_observed_rounds (h : Alike m m' start start' services services' name)
    (k : Nat) :
    (pass m services (rounds m services start k).1).report.observed.filter (·.1 = name) =
      (pass m' services' (rounds m' services' start' k).1).report.observed.filter
        (·.1 = name) := by
  rw [(tallies_pass m services _).observed_eq, (tallies_pass m' services' _).observed_eq,
    filter_observed, filter_observed, host_rounds, host_rounds, h.filter_pass (h.filter_rounds k)]

theorem Alike.about_course (h : Alike m m' start start' services services' name) (n : Nat) :
    (course m services start n).about name = (course m' services' start' n).about name := by
  rw [Course.about, Course.about, Course.mk.injEq]
  refine ⟨h.filter_rounds n, h.filter_replies_rounds n, ?_⟩
  rw [course, course, List.map_map, List.map_map]
  refine List.map_congr_left ?_
  intro k _
  exact h.filter_observed_rounds k

theorem service_mem_rounds (m : Manager σ) (services : List String) (start : σ) (n : Nat) :
    ∀ call ∈ (rounds m services start n).2, call.service ∈ services := by
  induction n with
  | zero =>
    intro call hcall
    cases hcall
  | succ n ih =>
    intro call hcall
    simp only [rounds] at hcall
    rcases List.mem_append.mp hcall with hbefore | hlast
    · exact ih call hbefore
    · exact service_mem_pass m services _ call hlast

/-- Passes over one service are about nothing else. -/
theorem about_course_singleton (m : Manager σ) (name : String) (start : σ) (n : Nat) :
    (course m [name] start n).about name = course m [name] start n := by
  have hcalls : ∀ call ∈ (rounds m [name] start n).2, call.service = name := by
    intro call hcall
    exact List.mem_singleton.mp (service_mem_rounds m [name] start n call hcall)
  have hreplies : ∀ reply ∈ m.replies start (rounds m [name] start n).2,
      reply.service = name := by
    intro reply hreply
    have hcall := List.mem_map_of_mem (f := Reply.call) hreply
    rw [Manager.map_call_replies] at hcall
    exact hcalls reply.call hcall
  have hobserved : ∀ k, ∀ seen ∈ (pass m [name] (rounds m [name] start k).1).report.observed,
      seen.1 = name := by
    intro k seen hseen
    have hfst := List.mem_map_of_mem (f := Prod.fst) hseen
    rw [(tallies_pass m [name] _).observed_eq, (dialogue_pass m [name] _).seen] at hfst
    exact List.mem_singleton.mp hfst
  rw [Course.about, course, Course.mk.injEq]
  refine ⟨?_, ?_, ?_⟩
  · exact List.filter_eq_self.mpr fun call hcall => decide_eq_true (hcalls call hcall)
  · exact List.filter_eq_self.mpr fun reply hreply => decide_eq_true (hreplies reply hreply)
  · rw [List.map_map]
    refine List.map_congr_left ?_
    intro k _
    exact List.filter_eq_self.mpr fun seen hseen => decide_eq_true (hobserved k seen hseen)

/-! ## The main statement -/

/-- However a service is watched among others, it is as if it was watched alone. -/
structure Isolated (m : Manager σ) (start : σ) (book : AnswerBook) (services : List String)
    (name : String) (n : Nat) : Prop where
  /-- there is a plan for the service alone, -/
  planned : ∀ poll initial, poll.isZero = false →
    (WatchPlan.make [name] poll initial).value = .ok ⟨[name], poll, initial⟩
  /-- and by it the same is asked about the service, answered, and observed in each pass -/
  alone : (course m services start n).about name = course m [name] start n
  /-- so the other services, their number, their order and what they are answered make no
  difference, as long as the service itself is answered the same -/
  others : ∀ {τ : Type} (m' : Manager τ) (start' : τ) (book' : AnswerBook)
    (listed' : List String) (poll' initial' : Duration) (plan' : WatchPlan),
    m'.GoesBy start' book' → book.AgreeOn book' name →
    (WatchPlan.make listed' poll' initial').value = .ok plan' → name ∈ plan'.services →
    (course m services start n).about name = (course m' plan'.services start' n).about name

/-- By a manager whose answers about a service depend on nothing but how often it was
asked the same, no service of a plan is treated differently for the sake of another. -/
theorem isolated_course {listed : List String} {poll initial : Duration} {plan : WatchPlan}
    (hplan : (WatchPlan.make listed poll initial).value = .ok plan)
    (hname : name ∈ plan.services) (hbook : m.GoesBy start book) (n : Nat) :
    Isolated m start book plan.services name n := by
  have hlist := WatchPlan.listable_make hplan
  have hsame : book.AgreeOn book name := ⟨rfl, rfl⟩
  refine ⟨?_, ?_, ?_⟩
  · intro poll' initial' hpoll'
    rw [WatchPlan.make_of_listable (hlist.singleton hname) (by simp) hpoll']
    rfl
  · have halike : Alike m m start start plan.services [name] name :=
      ⟨⟨book, book, hbook, hbook, hsame⟩, hlist.nodup, List.nodup_singleton name, hname,
        List.mem_singleton_self name⟩
    rw [halike.about_course n, about_course_singleton]
  · intro τ m' start' book' listed' poll' initial' plan' hbook' hagree hplan' hname'
    have halike : Alike m m' start start' plan.services plan'.services name :=
      ⟨⟨book, book', hbook, hbook', hagree⟩, hlist.nodup, (WatchPlan.listable_make hplan').nodup,
        hname, hname'⟩
    exact halike.about_course n

/-- A service that stops now and then is started as it would be alone, while another one
cannot be queried and a third refuses to start. -/
theorem isolated_script :
    let script : Script :=
      ⟨[("a", ⟨[.notFound], [], 0, 0⟩),
        ("b", ⟨[.status .stopped, .status .running, .status .stopped], [.accepted], 0, 0⟩),
        ("c", ⟨[.status .stopped], [.host "no"], 0, 0⟩)]⟩
    let plan : WatchPlan := ⟨["a", "b", "c"], .ofSeconds 1, .ofSeconds 0⟩
    (WatchPlan.make ["a", "b", "a", "c"] (.ofSeconds 1) (.ofSeconds 0)).value = .ok plan ∧
      "b" ∈ plan.services ∧ Script.manager.GoesBy script script.book ∧
      Isolated Script.manager script script.book plan.services "b" 3 ∧
      (course Script.manager ["b"] script 3).calls =
        [.query "b", .start "b", .query "b", .query "b", .start "b"] := by
  have hplan : (WatchPlan.make ["a", "b", "a", "c"] (.ofSeconds 1) (.ofSeconds 0)).value =
      .ok ⟨["a", "b", "c"], .ofSeconds 1, .ofSeconds 0⟩ := by rfl
  have hname : "b" ∈ ["a", "b", "c"] := by decide
  exact ⟨hplan, hname, Script.goesBy_book _, isolated_course hplan hname (Script.goesBy_book _) 3,
    by decide⟩

end ServiceSupervisor.Monitor
