import ServiceSupervisor.Supervisor.Controller

/-!
  Proofs/Supervisor/Controller.lean --- what is true of a controller at every stage.

  `Sound` says what a controller's flags are at its stage, and what it has reported.
  The steps of its operations keep that, except that a launch raises the flags before
  it goes on to the next stage and a stop lowers them; these are taken as a whole.
-/

set_option autoImplicit false

namespace ServiceSupervisor

theorem Stage.take_later {s t : Stage} {e : Event} (h : s.next? e = some t) :
    later.take s.rank ++ [t] = later.take t.rank := by
  have hnext : later[s.rank]? = some t := by
    cases s <;> cases e <;> simp [next?] at h <;> subst h <;> rfl
  rw [rank_next? h, List.take_add_one, hnext]
  rfl

namespace Controller

variable {ρ : Type} {r : Reporter ρ} {host : ρ} {outside : Bool} {c : Controller ρ}

section Fields

variable (r : Reporter ρ) (next : Stage) (c : Controller ρ)

@[simp] theorem stage_moveTo : (c.moveTo r next).stage = next := rfl
@[simp] theorem launched_moveTo : (c.moveTo r next).launched = c.launched := rfl
@[simp] theorem spawned_moveTo : (c.moveTo r next).spawned = c.spawned := rfl
@[simp] theorem watching_moveTo : (c.moveTo r next).watching = c.watching := rfl
@[simp] theorem cancelled_moveTo : (c.moveTo r next).cancelled = c.cancelled := rfl
@[simp] theorem reports_moveTo : (c.moveTo r next).reports = c.reports ++ [next] := rfl
@[simp] theorem host_moveTo : (c.moveTo r next).host = (r.report next c.host).2 := rfl

end Fields

/-! ## What was reported -/

/-- The stages up to the present one were reported to the host, and nothing else. -/
structure Told (r : Reporter ρ) (host : ρ) (c : Controller ρ) : Prop where
  reports_eq : c.reports = Stage.later.take c.stage.rank
  host_eq : c.host = c.reports.foldl (fun h stage => (r.report stage h).2) host

theorem Told.moveTo (h : c.Told r host) {e : Event} {next : Stage}
    (hnext : c.stage.next? e = some next) : (c.moveTo r next).Told r host where
  reports_eq := by rw [reports_moveTo, h.reports_eq, Stage.take_later hnext, stage_moveTo]
  host_eq := by simp [← h.host_eq]

/-! ## The flags at each stage -/

/-- What was told and what was done fit the stage.  `outside` tells whether somebody
else has set the cancellation. -/
structure Sound (r : Reporter ρ) (host : ρ) (outside : Bool) (c : Controller ρ) : Prop extends
    Told r host c where
  launched_eq : c.launched = decide (2 ≤ c.stage.rank)
  spawned_eq : c.spawned = c.launched.toNat
  watching_eq : c.watching = decide (c.stage = .running ∨ c.stage = .stopPending)
  cancelled_eq : c.cancelled = (outside || decide (3 ≤ c.stage.rank))

theorem sound_new (r : Reporter ρ) (host : ρ) : (new host).Sound r host false where
  reports_eq := rfl
  host_eq := rfl
  launched_eq := rfl
  spawned_eq := rfl
  watching_eq := rfl
  cancelled_eq := rfl

theorem Sound.cancel (h : c.Sound r host outside) : c.cancel.Sound r host true :=
  ⟨⟨h.reports_eq, h.host_eq⟩, h.launched_eq, h.spawned_eq, h.watching_eq, rfl⟩

/-- What is logged, and what was asked for meanwhile, is no part of it. -/
theorem Sound.withLog (h : c.Sound r host outside) (log : List Entry) (requests : List Request) :
    Sound r host outside { c with log := log, requests := requests } :=
  ⟨⟨h.reports_eq, h.host_eq⟩, h.launched_eq, h.spawned_eq, h.watching_eq, h.cancelled_eq⟩

theorem apply_of_next? {e : Event} {next : Stage} (h : c.stage.next? e = some next) :
    c.apply r e = (.ok (), c.moveTo r next) := by
  simp [apply, h]

theorem apply_of_next?_eq_none {e : Event} (h : c.stage.next? e = none) :
    c.apply r e = (.error (.invalidTransition c.stage e), c) := by
  simp [apply, h]

/-- What a step of a controller comes to: it is refused and does nothing, or it leads
from the one stage to the other. -/
inductive Leads (r : Reporter ρ) (host : ρ) (outside : Bool) (c : Controller ρ) (old next : Stage) :
    Except LifecycleError Unit × Controller ρ → Prop
  | refused (h : c.stage ≠ old) (e : LifecycleError) : Leads r host outside c old next (.error e, c)
  | done {c' : Controller ρ} (hold : c.stage = old) (hnext : c'.stage = next)
      (hsound : c'.Sound r host outside) : Leads r host outside c old next (.ok (), c')

theorem Sound.enter (h : c.Sound r host outside) :
    Leads r host outside c .initializing .startPending (c.apply r .enter) := by
  cases hstage : c.stage with
  | initializing =>
    have hnext : c.stage.next? .enter = some .startPending := by rw [hstage]; rfl
    rw [apply_of_next? hnext]
    refine .done hstage rfl ⟨h.toTold.moveTo hnext, ?_, h.spawned_eq, ?_, ?_⟩
    · rw [launched_moveTo, h.launched_eq, hstage]
      rfl
    · rw [watching_moveTo, h.watching_eq, hstage]
      rfl
    · rw [cancelled_moveTo, h.cancelled_eq, hstage]
      rfl
  | _ =>
    rw [apply_of_next?_eq_none (by rw [hstage]; rfl)]
    exact .refused (by simp [hstage]) _

/-- A launch is refused and does nothing, or its thread is started and the controller
goes on to the next stage.  Where it is due, only the thread can be missing. -/
theorem Sound.spawn (h : c.Sound r host outside) (failure : Option String) :
    (∃ e, c.spawn failure = (.error e, c) ∧
        (c.stage = .startPending → ∃ reason, failure = some reason ∧ e = .spawn reason)) ∨
      ∃ armed c', c.spawn failure = (.ok (), armed) ∧ failure = none ∧ c.stage = .startPending ∧
        armed.apply r .monitorLaunched = (.ok (), c') ∧ c'.stage = .running ∧
        c'.Sound r host outside := by
  cases hstage : c.stage with
  | startPending =>
    have hlaunched : c.launched = false := by rw [h.launched_eq, hstage]; rfl
    have hmay : c.mayLaunch = .ok () := by simp [mayLaunch, hlaunched, hstage, Stage.next?]
    cases failure with
    | some reason => exact Or.inl ⟨_, by simp [Controller.spawn, hmay], fun _ => ⟨reason, rfl, rfl⟩⟩
    | none =>
      have hnext : c.stage.next? .monitorLaunched = some .running := by rw [hstage]; rfl
      have htold := h.toTold.moveTo hnext
      refine Or.inr ⟨{ c with watching := true, launched := true, spawned := c.spawned + 1 }, _,
        by simp only [Controller.spawn, hmay], rfl, rfl, apply_of_next? hnext, rfl,
        ⟨htold.reports_eq, htold.host_eq⟩, rfl, ?_, rfl, ?_⟩
      · simp [h.spawned_eq, hlaunched]
      · exact h.cancelled_eq.trans (by rw [hstage]; rfl)
  | _ =>
    have hmay : ∃ e, c.mayLaunch = .error e := by
      simp only [mayLaunch]
      split
      · exact ⟨_, rfl⟩
      · exact ⟨_, by rw [hstage]; rfl⟩
    obtain ⟨e, he⟩ := hmay
    exact Or.inl ⟨e, by simp [Controller.spawn, he], by simp⟩

theorem Sound.beginStop (h : c.Sound r host outside) (request : Request) :
    Leads r host outside c .running .stopPending (c.beginStop r request) := by
  cases hstage : c.stage with
  | running =>
    have hnext : c.stage.next? .stopRequested = some .stopPending := by rw [hstage]; rfl
    have htold := h.toTold.moveTo hnext
    simp only [Controller.beginStop, apply_of_next? hnext]
    refine .done hstage rfl ⟨⟨htold.reports_eq, htold.host_eq⟩, ?_, h.spawned_eq, ?_, ?_⟩
    · exact h.launched_eq.trans (by rw [hstage]; rfl)
    · exact h.watching_eq.trans (by rw [hstage]; rfl)
    · exact (Bool.or_true outside).symm
  | _ =>
    have hnext : c.stage.next? .stopRequested = none := by rw [hstage]; rfl
    simp only [Controller.beginStop, apply_of_next?_eq_none hnext]
    exact .refused (by simp [hstage]) _

theorem Sound.finishStop (h : c.Sound r host outside) (exit : Monitor.Exit)
    (hstage : c.stage = .stopPending) :
    Leads r host outside c .stopPending .stopped (c.finishStop r exit) := by
  have hnext : c.stage.next? .monitorExited = some .stopped := by rw [hstage]; rfl
  have htold := h.toTold.moveTo hnext
  have hfinish : c.finishStop r exit =
      (.ok (), moveTo r .stopped
        { c with watching := false, log := c.log ++ exitNotes c.grace exit }) :=
    apply_of_next? hnext
  rw [hfinish]
  refine .done hstage rfl ⟨⟨htold.reports_eq, htold.host_eq⟩, ?_, h.spawned_eq, rfl, ?_⟩
  · exact h.launched_eq.trans (by rw [hstage]; rfl)
  · exact h.cancelled_eq.trans (by rw [hstage]; rfl)

end Controller

end ServiceSupervisor
