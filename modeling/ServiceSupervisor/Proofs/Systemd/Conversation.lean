import ServiceSupervisor.Proofs.Monitor.Dialogue
import ServiceSupervisor.Proofs.Systemd.Exchanges
import ServiceSupervisor.Systemd.Host

/-!
  Proofs/Systemd/Conversation.lean --- how a pass talks to systemd.

  Each unit is shown once; the one that is shown stopped is started next, and shown
  again only to tell why its start was refused.  What `systemctl` writes as its
  complaint never decides what is run next.
-/

set_option autoImplicit false

namespace ServiceSupervisor.Systemd

open Monitor (PassState asksStart pass visit)
open Systemctl (Exchanged exchanged_run exchanged_nil)

variable {scope : Scope} {limit : Duration} {name : String} {services : List String}
  {s s' : Systemctl} {shown shown' : Outcome}

/-! ## What is said -/

/-- Arguments for the instance of systemd of a scope: a user's own has to be picked. -/
def addressed : Scope → List String → List String
  | .system, args => args
  | .user, args => "--user" :: args

/-- What shows the two states of a unit. -/
def showCall (scope : Scope) (name : String) : List String :=
  addressed scope ["show", "-p", "LoadState", "-p", "ActiveState", "--", name]

/-- What starts a unit, without waiting for it to run. -/
def startCall (scope : Scope) (name : String) : List String :=
  addressed scope ["start", "--no-block", "--", name]

theorem scopeArgs_append (scope : Scope) (args : List String) :
    scopeArgs scope ++ args = addressed scope args := by
  cases scope <;> rfl

theorem showArgs_eq (scope : Scope) (name : String) : showArgs scope name = showCall scope name :=
  scopeArgs_append scope _

theorem startArgs_eq (scope : Scope) (name : String) :
    startArgs scope name = startCall scope name :=
  scopeArgs_append scope _

/-! ## What is run -/

/-- The unit was shown in time, and as stopped. -/
def ShowsStopped (name : String) (shown : Outcome) : Prop :=
  ∃ out err, shown = .ended true out err ∧
    parseShow name (Text.Utf8.decodeLossy out) = .ok .stopped

/-- The unit was shown in time, and as one that is not there. -/
def ShowsMissing (name : String) (shown : Outcome) : Prop :=
  ∃ out err, shown = .ended true out err ∧
    parseShow name (Text.Utf8.decodeLossy out) = .error (.notFound name)

/-- What is run to start a unit, and what the start is answered with. -/
inductive Starts (scope : Scope) (limit : Duration) (name : String) :
    List Exchange → Except StartError Unit → Prop
  | accepted (out err : List UInt8) :
      Starts scope limit name [⟨startCall scope name, .ended true out err⟩] (.ok ())
  | notStarted (e : FileError) :
      Starts scope limit name [⟨startCall scope name, .notStarted e⟩]
        (.error (.host name (notExecuted e)))
  | timedOut :
      Starts scope limit name [⟨startCall scope name, .timedOut⟩]
        (.error (.host name ("systemctl did not answer within " ++ limit.text)))
  /-- a start that was refused in time is looked into: there is no such unit, -/
  | missing (out err : List UInt8) {again : Outcome} (h : ShowsMissing name again) :
      Starts scope limit name
        [⟨startCall scope name, .ended false out err⟩, ⟨showCall scope name, again⟩]
        (.error (.notFound name))
  /-- or its complaint is passed on -/
  | refused (out err : List UInt8) {again : Outcome} (h : ¬ ShowsMissing name again) :
      Starts scope limit name
        [⟨startCall scope name, .ended false out err⟩, ⟨showCall scope name, again⟩]
        (.error (.host name (Text.trim (Text.Utf8.decodeLossy err))))

/-- What is run in a pass over some units, and what it is told. -/
inductive Conversation (scope : Scope) (limit : Duration) :
    List String → List Exchange → List Reply → Prop
  | done : Conversation scope limit [] [] []
  /-- a unit that is not shown stopped is left alone -/
  | leaves {name : String} {shown : Outcome} {services : List String}
      {exchanges : List Exchange} {replies : List Reply} (h : ¬ ShowsStopped name shown)
      (rest : Conversation scope limit services exchanges replies) :
      Conversation scope limit (name :: services) (⟨showCall scope name, shown⟩ :: exchanges)
        (.query name (statusFrom limit name shown) :: replies)
  /-- one that is gets started -/
  | starts {name : String} {shown : Outcome} {asked : List Exchange}
      {answer : Except StartError Unit} {services : List String} {exchanges : List Exchange}
      {replies : List Reply} (h : ShowsStopped name shown)
      (hstart : Starts scope limit name asked answer)
      (rest : Conversation scope limit services exchanges replies) :
      Conversation scope limit (name :: services)
        (⟨showCall scope name, shown⟩ :: asked ++ exchanges)
        (.query name (.ok .stopped) :: .start name answer :: replies)

theorem Conversation.append {more : List String} {exchanges exchanges' : List Exchange}
    {replies replies' : List Reply} (h : Conversation scope limit services exchanges replies)
    (h' : Conversation scope limit more exchanges' replies') :
    Conversation scope limit (services ++ more) (exchanges ++ exchanges')
      (replies ++ replies') := by
  induction h with
  | done => exact h'
  | leaves hshown _ ih => exact .leaves hshown ih
  | starts hshown hstart _ ih =>
    rw [List.append_assoc]
    exact .starts hshown hstart ih

/-! ## What the options are -/

/-- The options among some arguments: what stands behind two dashes is a name. -/
def options (args : List String) : List String := args.takeWhile (· ≠ "--")

theorem user_mem_options_showCall (scope : Scope) (name : String) :
    "--user" ∈ options (showCall scope name) ↔ scope = .user := by
  cases scope <;> simp [options, showCall, addressed]

theorem user_mem_options_startCall (scope : Scope) (name : String) :
    "--user" ∈ options (startCall scope name) ↔ scope = .user := by
  cases scope <;> simp [options, startCall, addressed]

theorem Starts.user_mem_options {asked : List Exchange} {answer : Except StartError Unit}
    (h : Starts scope limit name asked answer) :
    ∀ x ∈ asked, "--user" ∈ options x.args ↔ scope = .user := by
  cases h <;> simp [user_mem_options_showCall, user_mem_options_startCall]

theorem Conversation.user_mem_options {exchanges : List Exchange} {replies : List Reply}
    (h : Conversation scope limit services exchanges replies) :
    ∀ x ∈ exchanges, "--user" ∈ options x.args ↔ scope = .user := by
  induction h with
  | done => simp
  | leaves _ _ ih =>
    intro x hx
    rcases List.mem_cons.mp hx with rfl | hx
    · exact user_mem_options_showCall _ _
    · exact ih x hx
  | starts _ hstart _ ih =>
    intro x hx
    rcases List.mem_cons.mp hx with rfl | hx
    · exact user_mem_options_showCall _ _
    · rcases List.mem_append.mp hx with hx | hx
      · exact hstart.user_mem_options x hx
      · exact ih x hx

/-! ## What a call runs -/

theorem arePlain_showArgs (scope : Scope) (h : '\x00' ∉ name.toList) :
    Systemctl.arePlain (showArgs scope name) = true := by
  have hname : ∀ c ∈ name.toList, c ≠ '\x00' := fun c hc heq => h (heq ▸ hc)
  cases scope <;> simpa [Systemctl.arePlain, showArgs, scopeArgs] using hname

theorem arePlain_startArgs (scope : Scope) (h : '\x00' ∉ name.toList) :
    Systemctl.arePlain (startArgs scope name) = true := by
  have hname : ∀ c ∈ name.toList, c ≠ '\x00' := fun c hc heq => h (heq ▸ hc)
  cases scope <;> simpa [Systemctl.arePlain, startArgs, scopeArgs] using hname

theorem statusFrom_stopped_iff :
    statusFrom limit name shown = .ok .stopped ↔ ShowsStopped name shown := by
  rcases shown with e | - | ⟨_ | _, out, err⟩ <;> simp [statusFrom, ShowsStopped]

/-- A unit that is not there is told by its own name. -/
theorem name_of_parseShow {out missing : String}
    (h : parseShow name out = .error (.notFound missing)) : missing = name := by
  simp only [parseShow] at h
  split at h
  · cases h
    rfl
  · split at h
    · cases h
    · split at h <;> cases h

theorem statusFrom_notFound_iff {missing : String} :
    statusFrom limit name shown = .error (.notFound missing) ↔
      missing = name ∧ ShowsMissing name shown := by
  rcases shown with e | - | ⟨_ | _, out, err⟩
  · simp [statusFrom, ShowsMissing]
  · simp [statusFrom, ShowsMissing]
  · simp [statusFrom, ShowsMissing]
  · constructor
    · intro h
      obtain rfl := name_of_parseShow h
      exact ⟨rfl, out, err, rfl, h⟩
    · rintro ⟨rfl, out', err', hended, h⟩
      cases hended
      exact h

/-- A refused start is one of a missing unit, or is passed on. -/
theorem startFailure_cases (limit : Duration) (name reason : String) (again : Outcome) :
    ShowsMissing name again ∧
        startFailure name reason (statusFrom limit name again) = .notFound name ∨
      ¬ ShowsMissing name again ∧
        startFailure name reason (statusFrom limit name again) = .host name reason := by
  by_cases h : ShowsMissing name again
  · have hstatus : statusFrom limit name again = .error (.notFound name) :=
      statusFrom_notFound_iff.mpr ⟨rfl, h⟩
    exact Or.inl ⟨h, by rw [hstatus, startFailure]⟩
  · refine Or.inr ⟨h, ?_⟩
    simp only [startFailure]
    split
    · next missing hstatus => exact absurd (statusFrom_notFound_iff.mp hstatus).2 h
    · rfl

theorem exchanged_query (hname : '\x00' ∉ name.toList) (scope : Scope) (limit : Duration)
    (s : Systemctl) :
    ∃ shown, Exchanged (some limit) s [⟨showCall scope name, shown⟩] (query scope limit name s).2 ∧
      (query scope limit name s).1 = statusFrom limit name shown := by
  have hplain := arePlain_showArgs scope hname
  have hrun := Systemctl.run_of_arePlain hplain (some limit) s
  rw [← showArgs_eq]
  refine ⟨(s.next (some limit) (showArgs scope name)).outcome, exchanged_run hplain _ s, ?_⟩
  rw [query, hrun]

theorem exchanged_start (hname : '\x00' ∉ name.toList) (scope : Scope) (limit : Duration)
    (s : Systemctl) :
    ∃ asked, Exchanged (some limit) s asked (start scope limit name s).2 ∧
      Starts scope limit name asked (start scope limit name s).1 := by
  have hrun := exchanged_run (arePlain_startArgs scope hname) (some limit) s
  rw [Systemctl.next] at hrun
  have hanswer := congrArg Prod.fst
    (Systemctl.run_of_arePlain (arePlain_startArgs scope hname) (some limit) s)
  simp only [Systemctl.next] at hanswer
  rw [← hanswer] at hrun
  simp only [start]
  generalize s.run (some limit) (startArgs scope name) = ran at hrun ⊢
  rw [startArgs_eq] at hrun
  obtain ⟨e | - | ⟨_ | _, out, err⟩, s₁⟩ := ran
  · exact ⟨_, hrun, .notStarted e⟩
  · exact ⟨_, hrun, .timedOut⟩
  · obtain ⟨again, hquery, hstatus⟩ := exchanged_query hname scope limit s₁
    refine ⟨_, hrun.append hquery, ?_⟩
    simp only [hstatus]
    rcases startFailure_cases limit name (complaint err) again with ⟨h, hwhy⟩ | ⟨h, hwhy⟩
    · rw [hwhy]
      exact .missing out err h
    · rw [hwhy]
      exact .refused out err h
  · exact ⟨_, hrun, .accepted out err⟩

/-- A visit talks about its unit as it should. -/
theorem conversation_visit (hname : '\x00' ∉ name.toList) (scope : Scope) (limit : Duration)
    (p : PassState Systemctl) :
    ∃ asked exchanges, (visit (manager scope limit) p name).calls = p.calls ++ asked ∧
      Exchanged (some limit) p.host exchanges (visit (manager scope limit) p name).host ∧
      Conversation scope limit [name] exchanges
        ((manager scope limit).replies p.host asked) := by
  obtain ⟨shown, hquery, hstatus⟩ := exchanged_query hname scope limit p.host
  cases h : asksStart ((manager scope limit).query name p.host).1 with
  | true =>
    obtain ⟨asked, hstart, hanswer⟩ :=
      exchanged_start hname scope limit (query scope limit name p.host).2
    have hstopped : (query scope limit name p.host).1 = .ok .stopped := by
      cases hanswer : (query scope limit name p.host).1 with
      | error e => simp [asksStart, manager, hanswer] at h
      | ok status => simpa [asksStart, manager, hanswer] using h
    refine ⟨[.query name, .start name], ⟨showCall scope name, shown⟩ :: asked, ?_, ?_, ?_⟩
    · rw [Monitor.visit_of_asksStart _ h]
      simp
    · rw [Monitor.visit_of_asksStart _ h]
      exact hquery.append hstart
    · simp only [Manager.replies_cons, Manager.replies_nil, Manager.ask, manager, hstopped]
      have hshown := statusFrom_stopped_iff.mp (hstatus.symm.trans hstopped)
      rw [← List.append_nil (_ :: asked)]
      exact .starts hshown hanswer .done
  | false =>
    have hleft : ¬ ShowsStopped name shown := by
      intro hshown
      simp [asksStart, manager, hstatus, statusFrom_stopped_iff.mpr hshown] at h
    refine ⟨[.query name], [⟨showCall scope name, shown⟩], ?_, ?_, ?_⟩
    · rw [Monitor.visit_of_not_asksStart _ h, Monitor.calls_query]
    · rw [Monitor.visit_of_not_asksStart _ h]
      exact hquery
    · simp only [Manager.replies_cons, Manager.replies_nil, Manager.ask, manager, hstatus]
      exact .leaves hleft .done

theorem conversation_pass (hplain : ∀ name ∈ services, '\x00' ∉ name.toList) (scope : Scope)
    (limit : Duration) (s : Systemctl) :
    ∃ exchanges, Exchanged (some limit) s exchanges
        (pass (manager scope limit) services s).host ∧
      Conversation scope limit services exchanges
        ((manager scope limit).replies s (pass (manager scope limit) services s).calls) := by
  induction services using List.reverseRecOn with
  | nil => exact ⟨[], exchanged_nil _ s, .done⟩
  | append_singleton services name ih =>
    obtain ⟨exchanges, hexchanged, hconversation⟩ :=
      ih fun name hname => hplain name (List.mem_append_left _ hname)
    obtain ⟨asked, more, hcalls, hmore, hvisit⟩ :=
      conversation_visit (hplain name (by simp)) scope limit
        (pass (manager scope limit) services s)
    rw [(Monitor.tallies_pass (manager scope limit) services s).host_eq] at hvisit
    rw [Monitor.pass_snoc, hcalls, Manager.replies_append]
    exact ⟨_, hexchanged.append hmore, hconversation.append hvisit⟩

/-! ## What the complaints do

Two programs that differ only in their complaints cannot be told apart by what is
run. -/

/-- The behaviour without its complaint. -/
def Behaviour.mute : Behaviour → Behaviour
  | .runs time success out _ => .runs time success out []
  | .missing e => .missing e

/-- Without its complaint, all is as before. -/
def Outcome.mute : Outcome → Outcome
  | .ended success out _ => .ended success out []
  | outcome => outcome

/-- The programs were run alike and behave alike, but for their complaints. -/
structure SameButComplaints (s s' : Systemctl) : Prop where
  attempts_eq : s'.attempts = s.attempts
  mute_eq : ∀ n, (s'.behaviour n).mute = (s.behaviour n).mute

theorem SameButComplaints.run (h : SameButComplaints s s') (limit : Option Duration)
    (args : List String) :
    (s'.run limit args).1.mute = (s.run limit args).1.mute ∧
      SameButComplaints (s.run limit args).2 (s'.run limit args).2 := by
  by_cases hplain : Systemctl.arePlain args = true
  · have hmute := h.mute_eq s.attempts.length
    simp only [Systemctl.run, if_pos hplain, h.attempts_eq]
    cases hb : s.behaviour s.attempts.length <;>
      cases hb' : s'.behaviour s.attempts.length <;>
      simp only [hb, hb', Behaviour.mute, reduceCtorEq, Behaviour.missing.injEq,
        Behaviour.runs.injEq, and_true] at hmute
    · subst hmute
      exact ⟨rfl, rfl, h.mute_eq⟩
    · obtain ⟨rfl, rfl, rfl⟩ := hmute
      cases limit with
      | none => exact ⟨rfl, rfl, h.mute_eq⟩
      | some l =>
        refine ⟨?_, rfl, h.mute_eq⟩
        dsimp only
        split <;> rfl
  · rw [Systemctl.run, Systemctl.run, if_neg hplain, if_neg hplain]
    exact ⟨rfl, h⟩

/-- Two answers that are the same but for what is said of a failure. -/
def SameButReason {ε α : Type} (answer answer' : Except ε α) : Prop :=
  answer'.toOption = answer.toOption

theorem sameButReason_error {ε α : Type} (e e' : ε) :
    SameButReason (.error e : Except ε α) (.error e') := rfl

theorem sameButReason_statusFrom (limit : Duration) (name : String)
    (h : shown'.mute = shown.mute) :
    SameButReason (statusFrom limit name shown) (statusFrom limit name shown') := by
  rcases shown with e | - | ⟨success, out, err⟩ <;>
    rcases shown' with e' | - | ⟨success', out', err'⟩ <;>
    simp only [Outcome.mute, reduceCtorEq, Outcome.ended.injEq, and_true] at h
  · rfl
  · rfl
  · obtain ⟨rfl, rfl⟩ := h
    cases success' with
    | true => simp only [SameButReason, statusFrom]
    | false => exact sameButReason_error _ _

theorem SameButComplaints.query (h : SameButComplaints s s') (scope : Scope) (limit : Duration)
    (name : String) :
    SameButReason (query scope limit name s).1 (query scope limit name s').1 ∧
      SameButComplaints (query scope limit name s).2 (query scope limit name s').2 := by
  obtain ⟨hmute, hsame⟩ := h.run (some limit) (showArgs scope name)
  exact ⟨sameButReason_statusFrom limit name hmute, hsame⟩

theorem SameButComplaints.start (h : SameButComplaints s s') (scope : Scope) (limit : Duration)
    (name : String) :
    SameButReason (start scope limit name s).1 (start scope limit name s').1 ∧
      SameButComplaints (start scope limit name s).2 (start scope limit name s').2 := by
  obtain ⟨hmute, hsame⟩ := h.run (some limit) (startArgs scope name)
  simp only [Systemd.start]
  generalize s.run (some limit) (startArgs scope name) = ran at hmute hsame ⊢
  generalize s'.run (some limit) (startArgs scope name) = ran' at hmute hsame ⊢
  obtain ⟨e | - | ⟨success, out, err⟩, s₁⟩ := ran <;>
    obtain ⟨e' | - | ⟨success', out', err'⟩, s₁'⟩ := ran' <;>
    simp only [Outcome.mute, reduceCtorEq, Outcome.ended.injEq, and_true] at hmute
  · exact ⟨rfl, hsame⟩
  · exact ⟨rfl, hsame⟩
  · obtain ⟨rfl, rfl⟩ := hmute
    cases success' with
    | true => exact ⟨rfl, hsame⟩
    | false =>
      dsimp only
      exact ⟨sameButReason_error _ _, (hsame.query scope limit name).2⟩

/-- Two passes that cannot be told apart but by their reasons. -/
structure SamePass (p p' : PassState Systemctl) : Prop where
  host : SameButComplaints p.host p'.host
  calls_eq : p'.calls = p.calls
  report_eq : p'.report = p.report

theorem observe_of_sameButReason {answer answer' : Except QueryError Status}
    (h : SameButReason answer answer') (report : PassReport) (name : String) :
    report.observe name answer' = report.observe name answer := by
  cases answer <;> cases answer' <;> cases h <;> rfl

theorem settle_of_sameButReason {answer answer' : Except StartError Unit}
    (h : SameButReason answer answer') (report : PassReport) :
    report.settle answer' = report.settle answer := by
  cases answer <;> cases answer' <;> cases h <;> rfl

theorem asksStart_of_sameButReason {answer answer' : Except QueryError Status}
    (h : SameButReason answer answer') : asksStart answer' = asksStart answer := by
  cases answer <;> cases answer' <;> cases h <;> rfl

theorem SamePass.visit {p p' : PassState Systemctl} (h : SamePass p p') (scope : Scope)
    (limit : Duration) (name : String) :
    SamePass (Monitor.visit (manager scope limit) p name)
      (Monitor.visit (manager scope limit) p' name) := by
  obtain ⟨hanswer, hhost⟩ := h.host.query scope limit name
  have hquery : SamePass (Monitor.query (manager scope limit) p name)
      (Monitor.query (manager scope limit) p' name) := by
    refine ⟨hhost, ?_, ?_⟩
    · rw [Monitor.calls_query, Monitor.calls_query, h.calls_eq]
    · simp only [Monitor.query, manager, h.report_eq, observe_of_sameButReason hanswer]
  have hsame : asksStart ((manager scope limit).query name p'.host).1 =
      asksStart ((manager scope limit).query name p.host).1 :=
    asksStart_of_sameButReason hanswer
  cases hasks : asksStart ((manager scope limit).query name p.host).1 with
  | true =>
    rw [Monitor.visit_of_asksStart _ hasks, Monitor.visit_of_asksStart _ (hsame.trans hasks)]
    obtain ⟨hstarted, hhost⟩ := hquery.host.start scope limit name
    refine ⟨hhost, ?_, ?_⟩
    · rw [Monitor.calls_start, Monitor.calls_start, hquery.calls_eq]
    · simp only [Monitor.start]
      rw [hquery.report_eq]
      exact settle_of_sameButReason hstarted _
  | false =>
    rw [Monitor.visit_of_not_asksStart _ hasks,
      Monitor.visit_of_not_asksStart _ (hsame.trans hasks)]
    exact hquery

theorem samePass_pass (h : SameButComplaints s s') (scope : Scope) (limit : Duration)
    (services : List String) :
    SamePass (pass (manager scope limit) services s) (pass (manager scope limit) services s') := by
  induction services using List.reverseRecOn with
  | nil => exact ⟨h, rfl, rfl⟩
  | append_singleton services name ih =>
    rw [Monitor.pass_snoc, Monitor.pass_snoc]
    exact ih.visit scope limit name

/-! ## The main statement -/

/-- How a pass has talked to systemd. -/
structure Converses (scope : Scope) (limit : Duration) (services : List String) (s : Systemctl)
    (p : PassState Systemctl) : Prop where
  /-- what was run is what the units as they were shown call for, in the scope's
  instance of systemd -/
  conversation : ∃ exchanges, Exchanged (some limit) s exchanges p.host ∧
    Conversation scope limit services exchanges ((manager scope limit).replies s p.calls) ∧
    ∀ x ∈ exchanges, "--user" ∈ options x.args ↔ scope = .user
  /-- and complaints change neither that nor what is reported -/
  muted : ∀ s', SameButComplaints s s' →
    (pass (manager scope limit) services s').host.attempts = p.host.attempts ∧
      (pass (manager scope limit) services s').report = p.report

/-- Whatever `systemctl` does when it is started, a pass over units with names that can
be handed to it runs it as it should. -/
theorem converses_pass (hplain : ∀ name ∈ services, '\x00' ∉ name.toList) (scope : Scope)
    (limit : Duration) (s : Systemctl) :
    Converses scope limit services s (pass (manager scope limit) services s) where
  conversation := by
    obtain ⟨exchanges, hexchanged, hconversation⟩ := conversation_pass hplain scope limit s
    exact ⟨exchanges, hexchanged, hconversation, hconversation.user_mem_options⟩
  muted := by
    intro s' hsame
    have hpass := samePass_pass hsame scope limit services
    exact ⟨hpass.host.attempts_eq, hpass.report_eq⟩

/-- One unit is stopped and turns out to be missing when it is started; the other is not
shown in time. -/
theorem converses_missing_unit :
    let s : Systemctl :=
      ⟨fun n => [Behaviour.runs (.ofSeconds 0) true (Text.Utf8.encode "ActiveState=failed\n") [],
        .runs (.ofSeconds 1) false [] (Text.Utf8.encode " no\n"),
        .runs (.ofSeconds 0) true (Text.Utf8.encode "LoadState=not-found\n") [],
        .runs (.ofSeconds 9) true [] []].getD n (.missing .missing), []⟩
    let p := pass (manager .user defaultLimit) ["a", "b"] s
    (∀ name ∈ ["a", "b"], '\x00' ∉ name.toList) ∧ Converses .user defaultLimit ["a", "b"] s p ∧
      p.host.attempts.map Attempt.args =
        [["--user", "show", "-p", "LoadState", "-p", "ActiveState", "--", "a"],
          ["--user", "start", "--no-block", "--", "a"],
          ["--user", "show", "-p", "LoadState", "-p", "ActiveState", "--", "a"],
          ["--user", "show", "-p", "LoadState", "-p", "ActiveState", "--", "b"]] ∧
      p.report = ⟨[("a", .stopped), ("b", .unknown)], 1, 1, 1⟩ := by
  have hplain : ∀ name ∈ ["a", "b"], '\x00' ∉ name.toList := by decide
  exact ⟨hplain, converses_pass hplain _ _ _, by decide +kernel, by decide +kernel⟩

end ServiceSupervisor.Systemd
