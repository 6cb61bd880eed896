import Mathlib.Data.List.Induction
import ServiceSupervisor.Monitor.Watch
import ServiceSupervisor.Proofs.History
import ServiceSupervisor.Proofs.Monitor.Trace
import ServiceSupervisor.Service.Script

/-!
  Proofs/Monitor/WholePasses.lean --- what a watch calls until it is over.

  The party that sets the cancellation may come at any moment: before, in or after a
  wait, a look at the cancellation, or a call.  A pass that is under way then is made
  to its end, and none begins afterwards.
-/

set_option autoImplicit false

namespace ServiceSupervisor.Monitor

variable {σ : Type} {m : Manager σ} {plan : WatchPlan} {start : σ}

/-! ## Runs of a watch -/

namespace Watch

variable {w : Watch σ}

theorem follow_append (w : Watch σ) (xs ys : List Act) :
    w.follow m (xs ++ ys) = (w.follow m xs).follow m ys := by
  simp [follow]

theorem follow_snoc (w : Watch σ) (xs : List Act) (a : Act) :
    w.follow m (xs ++ [a]) = (w.follow m xs).act m a :=
  follow_append w xs [a]

/-- An act changes the thread by a step of it, or not at all. -/
theorem thread_act (w : Watch σ) (a : Act) :
    (∃ b, a = .thread b ∧ (w.act m a).thread = w.thread.act m w.cancelled b) ∨
      (∀ b, a ≠ .thread b) ∧ (w.act m a).thread = w.thread := by
  cases a with
  | thread b => exact Or.inl ⟨b, rfl, rfl⟩
  | cancel => exact Or.inr ⟨by simp, rfl⟩
  | join =>
    refine Or.inr ⟨by simp, ?_⟩
    simp only [act, Watch.join]
    split <;> rfl
  | giveUp =>
    refine Or.inr ⟨by simp, ?_⟩
    simp only [act, Watch.giveUp]
    split
    · split <;> rfl
    · rfl

theorem cancelled_act (a : Act) (h : w.cancelled = true) : (w.act m a).cancelled = true := by
  cases a with
  | thread b => exact h
  | cancel => rfl
  | join =>
    simp only [act, Watch.join]
    split <;> exact h
  | giveUp =>
    simp only [act, Watch.giveUp]
    split
    · split <;> exact h
    · exact h

theorem keeps_act (h : w.thread.Keeps m plan start) (a : Act) :
    (w.act m a).thread.Keeps m plan start := by
  rcases thread_act (m := m) w a with ⟨b, -, hthread⟩ | ⟨-, hthread⟩
  · rw [hthread]
    exact h.act w.cancelled b
  · rw [hthread]
    exact h

theorem keeps_follow (h : w.thread.Keeps m plan start) (acts : List Act) :
    (w.follow m acts).thread.Keeps m plan start := by
  induction acts generalizing w with
  | nil => exact h
  | cons a acts ih => exact ih (keeps_act h a)

/-- Once the cancellation is set, no pass begins. -/
theorem begun_follow_of_cancelled (h : w.cancelled = true) (acts : List Act) :
    (w.follow m acts).thread.begun = w.thread.begun := by
  induction acts generalizing w with
  | nil => rfl
  | cons a acts ih =>
    have hstep : (w.act m a).thread.begun = w.thread.begun := by
      rcases thread_act (m := m) w a with ⟨b, -, hthread⟩ | ⟨-, hthread⟩
      · rw [hthread, h]
        exact begun_act_of_cancelled w.thread b
      · rw [hthread]
    exact (ih (cancelled_act a h)).trans hstep

theorem begun_elapse (h : w.cancelled = false)
    (hwait : w.thread.phase = .delaying ∨ w.thread.phase = .pausing) :
    (w.act m (.thread .elapse)).thread.begun = w.thread.begun + 1 := by
  rcases hwait with hphase | hphase <;>
    simp [act, Thread.act, Thread.elapse, Thread.beginPass, Thread.begun, Phase.isAmid,
      Phase.outcome?, h, hphase]

theorem follow_work (w : Watch σ) (n : Nat) (h : w.cancelled = true) :
    (w.follow m (List.replicate n (.thread .work))).thread =
      (Thread.work m true)^[n] w.thread := by
  induction n generalizing w with
  | zero => rfl
  | succ n ih =>
    have hstep := ih (w.act m (.thread .work)) h
    simpa [follow, List.replicate_succ, act, Thread.act, h] using hstep

/-- The initial wait looked at the signal when it was set. -/
def SeesSignalFirst (m : Manager σ) (plan : WatchPlan) (start : σ) (acts : List Act) : Prop :=
  ∃ before a after, acts = before ++ .thread a :: after ∧ a ≠ .crash ∧
    ((Watch.launch plan start).follow m before).thread.phase = .delaying ∧
    ((Watch.launch plan start).follow m before).cancelled = true

theorem seesSignalFirst_iff_happened (acts : List Act) :
    SeesSignalFirst m plan start acts ↔
      Happened (fun w x => w.act m x)
        (fun w x => ∃ a, x = .thread a ∧ a ≠ .crash ∧ w.thread.phase = .delaying ∧
          w.cancelled = true)
        (Watch.launch plan start) acts := by
  constructor
  · rintro ⟨before, a, after, hacts, hrest⟩
    exact ⟨before, .thread a, after, hacts, a, rfl, hrest⟩
  · rintro ⟨before, x, after, hacts, a, rfl, hrest⟩
    exact ⟨before, a, after, hacts, hrest⟩

theorem seesSignalFirst_snoc (acts : List Act) (x : Act) :
    SeesSignalFirst m plan start (acts ++ [x]) ↔
      SeesSignalFirst m plan start acts ∨
        ∃ a, x = .thread a ∧ a ≠ .crash ∧
          ((Watch.launch plan start).follow m acts).thread.phase = .delaying ∧
          ((Watch.launch plan start).follow m acts).cancelled = true := by
  rw [seesSignalFirst_iff_happened, seesSignalFirst_iff_happened, happened_snoc]
  rfl

/-- Either the thread is in its initial wait still, or that wait saw the signal and the
work is over without a pass, or a pass was begun. -/
theorem sees_or_begins (m : Manager σ) (plan : WatchPlan) (start : σ) (acts : List Act) :
    (((Watch.launch plan start).follow m acts).thread.phase = .delaying ∧
        ¬ SeesSignalFirst m plan start acts) ∨
      (((Watch.launch plan start).follow m acts).thread.phase.outcome? = some (.finished 0) ∧
        SeesSignalFirst m plan start acts) ∨
      (((Watch.launch plan start).follow m acts).thread.phase ≠ .delaying ∧
        1 ≤ ((Watch.launch plan start).follow m acts).thread.begun ∧
        ¬ SeesSignalFirst m plan start acts) := by
  induction acts using List.reverseRecOn with
  | nil =>
    refine Or.inl ⟨rfl, ?_⟩
    rintro ⟨before, a, after, hacts, -⟩
    simp at hacts
  | append_singleton acts x ih =>
    rw [follow_snoc, seesSignalFirst_snoc]
    generalize (Watch.launch plan start).follow m acts = w at ih ⊢
    rcases thread_act (m := m) w x with ⟨b, rfl, hthread⟩ | ⟨hx, hthread⟩
    · rw [hthread]
      rcases ih with ⟨hphase, hno⟩ | ⟨hout, hsees⟩ | ⟨hphase, hbegun, hno⟩
      · cases b with
        | crash =>
          refine Or.inl ⟨by simp [Thread.act, Thread.crash, hphase], ?_⟩
          rintro (hsees | ⟨a, ha, hcrash, -⟩)
          · exact hno hsees
          · exact hcrash (Watch.Act.thread.inj ha).symm
        | work =>
          cases hcancelled : w.cancelled with
          | true =>
            exact Or.inr (Or.inl ⟨by simp [Thread.act, Thread.work, hphase, Phase.outcome?],
              Or.inr ⟨.work, rfl, by simp, hphase, rfl⟩⟩)
          | false => exact Or.inl ⟨by simp [Thread.act, Thread.work, hphase], by simpa using hno⟩
        | elapse =>
          cases hcancelled : w.cancelled with
          | true =>
            exact Or.inr (Or.inl ⟨by simp [Thread.act, Thread.elapse, hphase, Phase.outcome?],
              Or.inr ⟨.elapse, rfl, by simp, hphase, rfl⟩⟩)
          | false =>
            refine Or.inr (Or.inr ⟨?_, ?_, by simpa using hno⟩)
            · simp [Thread.act, Thread.elapse, hphase, Thread.beginPass]
            · simp [Thread.act, Thread.elapse, hphase, Thread.beginPass, Thread.begun,
                Phase.isAmid]
      · obtain ⟨phase, hphase, hact⟩ := exists_act_of_outcome (m := m) w.thread w.cancelled b hout
        rw [hact]
        exact Or.inr (Or.inl ⟨hphase, Or.inl hsees⟩)
      · refine Or.inr (Or.inr ⟨phase_act_ne_delaying _ b hphase,
          Nat.le_trans hbegun (begun_le_act _ b), ?_⟩)
        rintro (hsees | ⟨a, -, -, hdelay, -⟩)
        · exact hno hsees
        · exact hphase hdelay
    · rw [hthread]
      have hiff : (SeesSignalFirst m plan start acts ∨ ∃ a, x = .thread a ∧ a ≠ .crash ∧
          w.thread.phase = .delaying ∧ w.cancelled = true) ↔
          SeesSignalFirst m plan start acts := by
        refine or_iff_left ?_
        rintro ⟨a, ha, -⟩
        exact hx a ha
      rwa [hiff]

/-! ## The main statement -/

/-- What a watch by a plan has come to after these acts. -/
structure WholePasses (m : Manager σ) (plan : WatchPlan) (start : σ) (acts : List Act)
    (w : Watch σ) : Prop where
  /-- the calls are whole passes, and the beginning of one more -/
  calls_eq : ∃ cut,
    cut <+: (pass m plan.services (rounds m plan.services start w.thread.passes).1).calls ∧
      w.thread.calls = (rounds m plan.services start w.thread.passes).2 ++ cut
  /-- a wait that is over begins a pass, -/
  begins : w.cancelled = false → w.thread.phase = .delaying ∨ w.thread.phase = .pausing →
    (w.act m (.thread .elapse)).thread.begun = w.thread.begun + 1
  /-- but no pass begins once the cancellation is set; -/
  begun_eq : w.cancelled = true → ∀ more, (w.follow m more).thread.begun = w.thread.begun
  /-- those that were begun are made to their ends, -/
  not_cut : w.cancelled = true → ∀ more k,
    (w.follow m more).thread.phase.outcome? = some (.finished k) →
      k = w.thread.begun ∧ (w.follow m more).thread.calls = (rounds m plan.services start k).2
  /-- and unless a call does not come back, steps of the thread alone lead there -/
  comes_to_end : w.cancelled = true → w.thread.phase.outcome? ≠ some .crashed →
    ∃ n, (w.follow m (List.replicate n (.thread .work))).thread.result? =
      some (.finished w.thread.begun)
  /-- work that is finished has come to the passes made, and they are all it called -/
  finished : ∀ k, w.thread.phase.outcome? = some (.finished k) →
    w.thread.passes = k ∧ w.thread.calls = (rounds m plan.services start k).2
  /-- so it has queried each service as often, always in the same order -/
  queried : ∀ k, w.thread.phase.outcome? = some (.finished k) →
    w.thread.calls.filterMap queried? = (List.replicate k plan.services).flatten
  /-- it has come to no pass if and only if the initial wait saw the cancellation, -/
  none_iff : ∀ k, w.thread.phase.outcome? = some (.finished k) →
    (k = 0 ↔ SeesSignalFirst m plan start acts)
  /-- and then nothing was called -/
  none_calls : SeesSignalFirst m plan start acts → w.thread.calls = []

/-- However the steps of the thread, the ends of its waits and the cancellation are
interleaved, a watch makes whole passes. -/
theorem wholePasses_follow (m : Manager σ) (plan : WatchPlan) (start : σ) (acts : List Act) :
    WholePasses m plan start acts ((launch plan start).follow m acts) := by
  have hkeeps : ∀ more, (((launch plan start).follow m acts).follow m more).thread.Keeps m plan
      start := fun more => keeps_follow (keeps_follow (Thread.keeps_launch m plan start) acts) more
  have hsees := sees_or_begins m plan start acts
  generalize (launch plan start).follow m acts = w at hkeeps hsees ⊢
  have hnow : w.thread.Keeps m plan start := hkeeps []
  have hnot_cut : w.cancelled = true → ∀ more k,
      (w.follow m more).thread.phase.outcome? = some (.finished k) →
        k = w.thread.begun ∧
          (w.follow m more).thread.calls = (rounds m plan.services start k).2 := by
    intro hcancelled more k hk
    obtain ⟨hpasses, hcalls⟩ := (hkeeps more).of_finished hk
    refine ⟨?_, hcalls⟩
    rw [← hpasses, ← begun_of_finished hk, begun_follow_of_cancelled hcancelled]
  refine ⟨hnow.calls_eq, begun_elapse, begun_follow_of_cancelled, hnot_cut, ?_,
    fun k => hnow.of_finished, ?_, ?_, ?_⟩
  · intro hcancelled hcrashed
    obtain ⟨n, k, hn⟩ := exists_result_of_cancelled (m := m) w.thread hcrashed
    rw [← follow_work w n hcancelled] at hn
    have hk := (hnot_cut hcancelled _ k (outcome?_of_result? hn)).1
    exact ⟨n, hk ▸ hn⟩
  · intro k hk
    rw [(hnow.of_finished hk).2, queried_rounds]
  · intro k hk
    rcases hsees with ⟨hphase, -⟩ | ⟨hout, hsees⟩ | ⟨-, hbegun, hno⟩
    · simp [hphase, Phase.outcome?] at hk
    · rw [hout, Option.some.injEq, Result.finished.injEq] at hk
      exact iff_of_true hk.symm hsees
    · rw [begun_of_finished hk, (hnow.of_finished hk).1] at hbegun
      exact iff_of_false (Nat.ne_of_gt hbegun) hno
  · intro hfirst
    rcases hsees with ⟨-, hno⟩ | ⟨hout, -⟩ | ⟨-, -, hno⟩
    · exact absurd hfirst hno
    · exact (hnow.of_finished hout).2
    · exact absurd hfirst hno

/-- A watch that is cancelled while its first call is under way makes the whole pass. -/
example :
    let script : Script :=
      ⟨[("a", ⟨[.status .stopped], [.accepted], 0, 0⟩), ("b", ⟨[.status .running], [], 0, 0⟩)]⟩
    let w := (launch ⟨["a", "b"], .ofSeconds 1, .ofSeconds 0⟩ script).follow Script.manager
      (.thread .elapse :: .thread .work :: .cancel :: List.replicate 9 (.thread .work))
    w.thread.calls = [.query "a", .start "a", .query "b"] ∧
      w.thread.result? = some (.finished 1) := by decide

end Watch

end ServiceSupervisor.Monitor
