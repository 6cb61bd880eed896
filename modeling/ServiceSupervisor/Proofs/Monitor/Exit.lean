import ServiceSupervisor.Monitor.Schedule
import ServiceSupervisor.Proofs.History
import ServiceSupervisor.Proofs.Monitor.WholePasses

/-!
  Proofs/Monitor/Exit.lean --- what the wait for a monitor's thread comes to.

  The thread may end, lose a call or hang at one while somebody waits for it, who may run
  out of patience at any moment before the thread announces its end.  What the wait
  answers tells what the thread has done, and what it may still do.
-/

set_option autoImplicit false

namespace ServiceSupervisor.Monitor

variable {σ : Type} {m : Manager σ} {plan : WatchPlan} {start : σ}

/-! ## What a thread may still call -/

section Thread

variable {t : Thread σ}

/-- Between its passes, and after them, a thread has called just what they call. -/
theorem Thread.Keeps.calls_of_not_amid (h : t.Keeps m plan start)
    (hamid : t.phase.isAmid = false) : t.calls = (rounds m plan.services start t.begun).2 := by
  have hbegun : t.begun = t.passes := by simp [Thread.begun, hamid]
  obtain ⟨tplan, host, phase, n, calls, log⟩ := t
  obtain ⟨rfl, hstands⟩ := h
  dsimp only at hstands hamid hbegun ⊢
  rw [hbegun]
  cases hstands with
  | delaying => rfl
  | checking n => rfl
  | pausing n => rfl
  | finished n hout => rfl
  | crashed n hout hcut => cases phase <;> simp_all [Phase.isAmid, Phase.outcome?]
  | _ => cases hamid

/-- It has never called more than the passes that it has begun. -/
theorem Thread.Keeps.calls_begun (h : t.Keeps m plan start) :
    t.calls <+: (rounds m plan.services start t.begun).2 := by
  cases hamid : t.phase.isAmid with
  | true =>
    obtain ⟨cut, hcut, hcalls⟩ := h.calls_eq
    have hbegun : t.begun = t.passes + 1 := by simp [Thread.begun, hamid]
    rw [hcalls, hbegun]
    exact (List.prefix_append_right_inj _).mpr hcut
  | false =>
    have hcalls := h.calls_of_not_amid hamid
    exact hcalls ▸ List.prefix_rfl

/-- What a thread has called stays called. -/
theorem calls_prefix_act (t : Thread σ) (cancelled : Bool) (a : Act) :
    t.calls <+: (t.act m cancelled a).calls := by
  obtain ⟨tplan, host, phase, n, calls, log⟩ := t
  cases a with
  | work =>
    cases phase with
    | visiting todo report =>
      cases todo with
      | nil => exact List.prefix_rfl
      | cons name todo => exact List.prefix_append _ _
    | querying name todo report =>
      simp only [Thread.act, Thread.work]
      split
      · exact List.prefix_append _ _
      · exact List.prefix_rfl
    | _ => cases cancelled <;> exact List.prefix_rfl
  | elapse => cases phase <;> cases cancelled <;> exact List.prefix_rfl
  | crash => cases phase <;> exact List.prefix_rfl

/-- Only a call that does not come back crashes a thread. -/
theorem outcome?_act_crashed_iff (t : Thread σ) (cancelled : Bool) (a : Act) :
    (t.act m cancelled a).phase.outcome? = some .crashed ↔
      t.phase.outcome? = some .crashed ∨ a = .crash ∧ t.isCalling = true := by
  by_cases hcrashed : t.phase.outcome? = some .crashed
  · obtain ⟨phase, hphase, hact⟩ := exists_act_of_outcome (m := m) t cancelled a hcrashed
    rw [hact]
    exact iff_of_true hphase (Or.inl hcrashed)
  · cases a with
    | work =>
      refine iff_of_false (outcome?_work_ne_crashed t hcrashed cancelled) ?_
      rintro (h | ⟨h, -⟩)
      · exact hcrashed h
      · cases h
    | elapse =>
      obtain ⟨tplan, host, phase, n, calls, log⟩ := t
      cases phase <;> cases cancelled <;>
        simp_all [Thread.act, Thread.elapse, Thread.stop, Thread.beginPass, Phase.outcome?]
    | crash =>
      obtain ⟨tplan, host, phase, n, calls, log⟩ := t
      cases phase <;> simp_all [Thread.act, Thread.crash, Thread.isCalling, Phase.outcome?]

end Thread

namespace Watch

variable {w : Watch σ}

/-! ## What may happen to a wait -/

/-- The wait takes what the thread has come to, now that it has ended. -/
def Collects (r : Result) (w : Watch σ) (x : Act) : Prop :=
  x = .join ∧ w.exit = none ∧ w.thread.result? = some r

/-- The wait is given up while the thread has not announced its end. -/
def GivesUp (w : Watch σ) (x : Act) : Prop :=
  x = .giveUp ∧ w.exit = none ∧ w.thread.isAnnounced = false

/-- A call that the thread has under way does not come back. -/
def LosesCall (w : Watch σ) (x : Act) : Prop := x = .thread .crash ∧ w.thread.isCalling = true

/-- It has happened in a watch by a plan. -/
def Saw (m : Manager σ) (plan : WatchPlan) (start : σ) (P : Watch σ → Act → Prop)
    (acts : List Act) : Prop :=
  Happened (fun w a => w.act m a) P (launch plan start) acts

theorem exit_act_ofResult_iff (w : Watch σ) (x : Act) (r : Result) :
    (w.act m x).exit = some (.ofResult r) ↔ w.exit = some (.ofResult r) ∨ Collects r w x := by
  cases x with
  | thread b => simp [act, Collects]
  | cancel => simp [act, Collects]
  | join =>
    cases hexit : w.exit with
    | some e => simp [act, Watch.join, Collects, hexit]
    | none =>
      cases hresult : w.thread.result? with
      | none => simp [act, Watch.join, Collects, hexit, hresult]
      | some q => simp [act, Watch.join, Collects, hexit, hresult]
  | giveUp =>
    cases hexit : w.exit with
    | some e => simp [act, Watch.giveUp, Collects, hexit]
    | none =>
      cases hannounced : w.thread.isAnnounced with
      | true => simp [act, Watch.giveUp, Collects, hexit, hannounced]
      | false =>
        have hne := (Exit.ofResult_ne_timedOut r).symm
        simp [act, Watch.giveUp, Collects, hexit, hannounced, hne]

theorem exit_act_timedOut_iff (w : Watch σ) (x : Act) :
    (w.act m x).exit = some .timedOut ↔ w.exit = some .timedOut ∨ GivesUp w x := by
  cases x with
  | thread b => simp [act, GivesUp]
  | cancel => simp [act, GivesUp]
  | join =>
    cases hexit : w.exit with
    | some e => simp [act, Watch.join, GivesUp, hexit]
    | none =>
      cases hresult : w.thread.result? with
      | none => simp [act, Watch.join, GivesUp, hexit, hresult]
      | some q => simp [act, Watch.join, GivesUp, hexit, hresult]
  | giveUp =>
    cases hexit : w.exit with
    | some e => simp [act, Watch.giveUp, GivesUp, hexit]
    | none => cases hannounced : w.thread.isAnnounced <;>
        simp [act, Watch.giveUp, GivesUp, hexit, hannounced]

theorem outcome?_act_crashed_iff_losesCall (w : Watch σ) (x : Act) :
    (w.act m x).thread.phase.outcome? = some .crashed ↔
      w.thread.phase.outcome? = some .crashed ∨ LosesCall w x := by
  rcases thread_act (m := m) w x with ⟨b, rfl, hthread⟩ | ⟨hx, hthread⟩
  · rw [hthread, outcome?_act_crashed_iff, LosesCall, Act.thread.injEq]
  · rw [hthread]
    refine (or_iff_left ?_).symm
    rintro ⟨hcrash, -⟩
    exact hx .crash hcrash

/-! ## What has happened to it -/

theorem exit_ofResult_iff (m : Manager σ) (plan : WatchPlan) (start : σ) (acts : List Act)
    (r : Result) :
    ((launch plan start).follow m acts).exit = some (.ofResult r) ↔
      Saw m plan start (Collects r) acts :=
  iff_happened (Q := fun w : Watch σ => w.exit = some (.ofResult r)) (by simp [launch])
    (fun _ x => exit_act_ofResult_iff _ x r) acts

theorem exit_timedOut_iff (m : Manager σ) (plan : WatchPlan) (start : σ) (acts : List Act) :
    ((launch plan start).follow m acts).exit = some .timedOut ↔ Saw m plan start GivesUp acts :=
  iff_happened (Q := fun w : Watch σ => w.exit = some .timedOut) (by simp [launch])
    (fun _ x => exit_act_timedOut_iff _ x) acts

theorem outcome?_crashed_iff (m : Manager σ) (plan : WatchPlan) (start : σ) (acts : List Act) :
    ((launch plan start).follow m acts).thread.phase.outcome? = some .crashed ↔
      Saw m plan start LosesCall acts :=
  iff_happened (Q := fun w : Watch σ => w.thread.phase.outcome? = some .crashed)
    (by simp [launch, Thread.launch, Phase.outcome?])
    (fun _ x => outcome?_act_crashed_iff_losesCall _ x) acts

/-! ## What stays as it is -/

/-- A thread that has ended is left as it is. -/
theorem thread_follow_of_result? {r : Result} (h : w.thread.result? = some r)
    (more : List Act) : (w.follow m more).thread = w.thread := by
  induction more generalizing w with
  | nil => rfl
  | cons x more ih =>
    have hstep : (w.act m x).thread = w.thread := by
      rcases thread_act (m := m) w x with ⟨b, -, hthread⟩ | ⟨-, hthread⟩
      · rw [hthread, act_of_result? h]
      · exact hthread
    have hrest := ih (w := w.act m x) (by rw [hstep, h])
    rw [← hstep]
    exact hrest

theorem exit_follow {e : Exit} (h : w.exit = some e) (more : List Act) :
    (w.follow m more).exit = some e := by
  induction more generalizing w with
  | nil => exact h
  | cons x more ih =>
    refine ih ?_
    cases x with
    | thread b => exact h
    | cancel => exact h
    | join => simp [act, Watch.join, h]
    | giveUp => simp [act, Watch.giveUp, h]

/-- The result that was taken is the thread's still. -/
theorem result?_of_exit (m : Manager σ) (plan : WatchPlan) (start : σ) (acts : List Act)
    {r : Result}
    (h : ((launch plan start).follow m acts).exit = some (.ofResult r)) :
    ((launch plan start).follow m acts).thread.result? = some r := by
  obtain ⟨before, x, after, rfl, hx, -, hresult⟩ := (exit_ofResult_iff m plan start acts r).mp h
  subst hx
  have hthen : (((launch plan start).follow m before).act m .join).thread.result? = some r := by
    rcases thread_act (m := m) ((launch plan start).follow m before) .join with
      ⟨b, hb, -⟩ | ⟨-, hthread⟩
    · cases hb
    · rw [hthread]
      exact hresult
  have hlater := thread_follow_of_result? (m := m) hthen after
  have hsplit : (launch plan start).follow m (before ++ .join :: after) =
      (((launch plan start).follow m before).act m .join).follow m after := by
    rw [follow_append]
    rfl
  rw [hsplit, hlater, hthen]

theorem calls_prefix_follow (w : Watch σ) (more : List Act) :
    w.thread.calls <+: (w.follow m more).thread.calls := by
  induction more generalizing w with
  | nil => exact List.prefix_rfl
  | cons x more ih =>
    refine List.IsPrefix.trans ?_ (ih (w.act m x))
    rcases thread_act (m := m) w x with ⟨b, -, hthread⟩ | ⟨-, hthread⟩
    · rw [hthread]
      exact calls_prefix_act w.thread w.cancelled b
    · exact hthread ▸ List.prefix_rfl

/-- A wait that has not come to anything can still do so. -/
theorem exists_exit (w : Watch σ) (h : w.exit = none) :
    ∃ more e, (w.follow m more).exit = some e := by
  cases hannounced : w.thread.isAnnounced with
  | false =>
    refine ⟨[.giveUp], .timedOut, ?_⟩
    exact (exit_act_timedOut_iff (m := m) w .giveUp).mpr (Or.inr ⟨rfl, h, hannounced⟩)
  | true =>
    obtain ⟨r, hr⟩ := exists_result_of_isAnnounced m w.cancelled hannounced
    refine ⟨[.thread .work, .join], .ofResult r, ?_⟩
    have hjoin := exit_act_ofResult_iff (m := m) (w.act m (.thread .work)) .join r
    exact hjoin.mpr (Or.inr ⟨rfl, h, hr⟩)

/-! ## The main statement -/

/-- What a wait for the thread of a watch has come to after these acts. -/
structure Awaited (m : Manager σ) (plan : WatchPlan) (start : σ) (acts : List Act)
    (w : Watch σ) : Prop where
  /-- the wait answers that the thread has finished just when it took that from the thread,
  which had ended, -/
  finished_iff : ∀ k, w.exit = some (.finished k) ↔ Saw m plan start (Collects (.finished k)) acts
  /-- and the thread has made as many passes and called nothing else; -/
  finished : ∀ k, w.exit = some (.finished k) →
    w.thread.result? = some (.finished k) ∧ w.thread.passes = k ∧
      w.thread.calls = (rounds m plan.services start k).2
  /-- that it has crashed just when it waited to the end of a thread that had lost a call, -/
  crashed_iff : w.exit = some .crashed ↔
    (∃ r, Saw m plan start (Collects r) acts) ∧ Saw m plan start LosesCall acts
  /-- and that the time is over just when it was given up before the thread announced its end -/
  timedOut_iff : w.exit = some .timedOut ↔ Saw m plan start GivesUp acts
  /-- this is its one answer, -/
  exit_follow : ∀ e, w.exit = some e → ∀ more, (w.follow m more).exit = some e
  /-- and nothing can keep it from one -/
  exists_exit : w.exit = none → ∃ more e, (w.follow m more).exit = some e
  /-- a thread that was waited for to its end does nothing any more -/
  ended : ∀ e, w.exit = some e → e ≠ .timedOut → ∀ more,
    (w.follow m more).thread = w.thread
  /-- one that is left to itself and cancelled makes at most the calls that remain of the
  pass that it is in, if it is in one, and begins no other -/
  detached : w.cancelled = true → ∃ rest,
    (rounds m plan.services start w.thread.begun).2 = w.thread.calls ++ rest ∧
      (w.thread.phase.isAmid = false → rest = []) ∧
      ∀ more, (w.follow m more).thread.begun = w.thread.begun ∧
        ∃ made, made <+: rest ∧ (w.follow m more).thread.calls = w.thread.calls ++ made

/-- What is left to do for a thread that is cancelled. -/
theorem exists_rest (hkeeps : w.thread.Keeps m plan start) (hcancelled : w.cancelled = true) :
    ∃ rest, (rounds m plan.services start w.thread.begun).2 = w.thread.calls ++ rest ∧
      (w.thread.phase.isAmid = false → rest = []) ∧
      ∀ more, (w.follow m more).thread.begun = w.thread.begun ∧
        ∃ made, made <+: rest ∧ (w.follow m more).thread.calls = w.thread.calls ++ made := by
  obtain ⟨rest, hrest⟩ := hkeeps.calls_begun
  refine ⟨rest, hrest.symm, ?_, ?_⟩
  · intro hamid
    rw [← hkeeps.calls_of_not_amid hamid] at hrest
    exact List.append_right_eq_self.mp hrest
  · intro more
    have hbegun := begun_follow_of_cancelled (m := m) hcancelled more
    refine ⟨hbegun, ?_⟩
    obtain ⟨made, hmade⟩ := calls_prefix_follow (m := m) w more
    have hlater := (keeps_follow hkeeps more).calls_begun
    rw [hbegun, ← hrest, ← hmade] at hlater
    exact ⟨made, (List.prefix_append_right_inj _).mp hlater, hmade.symm⟩

/-- However the thread, its cancellation and the wait for it are interleaved, the wait
answers what the thread has come to. -/
theorem awaited_follow (m : Manager σ) (plan : WatchPlan) (start : σ) (acts : List Act) :
    Awaited m plan start acts ((launch plan start).follow m acts) := by
  have hkeeps : ((launch plan start).follow m acts).thread.Keeps m plan start :=
    keeps_follow (Thread.keeps_launch m plan start) acts
  have hresult := fun r => result?_of_exit m plan start acts (r := r)
  have hexit := exit_ofResult_iff m plan start acts
  have hlost := outcome?_crashed_iff m plan start acts
  have hgave := exit_timedOut_iff m plan start acts
  generalize (launch plan start).follow m acts = w at hkeeps hresult hexit hlost hgave ⊢
  refine ⟨fun k => hexit (.finished k), ?_, ?_, hgave, ?_, exists_exit w, ?_, exists_rest hkeeps⟩
  · intro k hk
    have hr := hresult (.finished k) hk
    obtain ⟨hpasses, hcalls⟩ := hkeeps.of_finished (outcome?_of_result? hr)
    exact ⟨hr, hpasses, hcalls⟩
  · constructor
    · intro hcrashed
      have hr := hresult .crashed hcrashed
      exact ⟨⟨.crashed, (hexit .crashed).mp hcrashed⟩, hlost.mp (outcome?_of_result? hr)⟩
    · rintro ⟨⟨r, hcollected⟩, hcall⟩
      have hr := (hexit r).mpr hcollected
      have hcrashed := hlost.mpr hcall
      rw [outcome?_of_result? (hresult r hr), Option.some.injEq] at hcrashed
      rw [hr, hcrashed]
      rfl
  · exact fun e he more => exit_follow he more
  · intro e he hne more
    cases e with
    | timedOut => exact absurd rfl hne
    | finished k => exact thread_follow_of_result? (hresult (.finished k) he) more
    | crashed => exact thread_follow_of_result? (hresult .crashed he) more

/-- A thread that hangs at its first call is given up; when the call is answered after all,
the pass is made to its end, and no other. -/
example :
    let script : Script :=
      ⟨[("a", ⟨[.hang], [], 0, 0⟩), ("b", ⟨[.status .stopped], [.accepted], 0, 0⟩)]⟩
    let w := (launch ⟨["a", "b"], .ofSeconds 1, .ofSeconds 0⟩ script).follow Script.manager
      ([.thread .elapse, .thread .work, .cancel, .join, .giveUp] ++
        List.replicate 9 (.thread .work) ++ [.join])
    w.exit = some .timedOut ∧ w.thread.calls = [.query "a", .query "b", .start "b"] ∧
      w.thread.result? = some (.finished 1) := by decide

end Watch

end ServiceSupervisor.Monitor
