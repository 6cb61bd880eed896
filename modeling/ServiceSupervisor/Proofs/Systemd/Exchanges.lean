import ServiceSupervisor.Systemd.Systemctl

/-!
  Proofs/Systemd/Exchanges.lean --- what the starts of `systemctl` come to, one by one.

  An exchange is a start with what its caller saw of it.  From the state before some
  exchanges and the exchanges alone the state after them can be told, and each of them
  went as the program behaves at that start.
-/

set_option autoImplicit false

namespace ServiceSupervisor.Systemd

/-- A start of the program: its arguments, and what its caller saw. -/
structure Exchange where
  args : List String
  outcome : Outcome
  deriving DecidableEq, Repr

/-- Whether the caller saw the program started. -/
def Outcome.isStarted : Outcome → Bool
  | .notStarted _ => false
  | _ => true

/-- The attempt that an exchange was. -/
def Exchange.attempt (x : Exchange) : Attempt := ⟨x.args, x.outcome.isStarted⟩

/-- What the caller of the program sees who waits for `limit`. -/
def Behaviour.outcome (limit : Option Duration) : Behaviour → Outcome
  | .missing e => .notStarted e
  | .runs time success out err =>
    match limit with
    | some l => if l.nanos ≤ time.nanos then .timedOut else .ended success out err
    | none => .ended success out err

namespace Systemctl

variable {limit : Option Duration} {args : List String} {s s' s'' : Systemctl}
  {exchanges more : List Exchange}

theorem arePlain_iff : arePlain args = true ↔ ∀ a ∈ args, '\x00' ∉ a.toList := by
  simp only [arePlain, List.all_eq_true, decide_eq_true_eq]
  exact forall₂_congr fun a _ => ⟨fun h hmem => h _ hmem rfl, fun h c hc hnul => h (hnul ▸ hc)⟩

/-- What the next start would come to. -/
def next (limit : Option Duration) (args : List String) (s : Systemctl) : Exchange :=
  ⟨args, (s.behaviour s.attempts.length).outcome limit⟩

theorem run_of_arePlain (h : arePlain args = true) (limit : Option Duration) (s : Systemctl) :
    s.run limit args = ((s.next limit args).outcome,
      { s with attempts := s.attempts ++ [(s.next limit args).attempt] }) := by
  simp only [run, if_pos h, next, Exchange.attempt]
  cases s.behaviour s.attempts.length with
  | missing e => rfl
  | runs time success out err =>
    cases limit with
    | none => rfl
    | some l =>
      by_cases htime : l.nanos ≤ time.nanos
      · simp [Behaviour.outcome, htime, Outcome.isStarted]
      · simp [Behaviour.outcome, htime, Outcome.isStarted]

/-- The exchanges lead from the one state to the other, and went as the program
behaves. -/
structure Exchanged (limit : Option Duration) (s : Systemctl) (exchanges : List Exchange)
    (s' : Systemctl) : Prop where
  behaviour_eq : s'.behaviour = s.behaviour
  attempts_eq : s'.attempts = s.attempts ++ exchanges.map Exchange.attempt
  outcome_eq : ∀ n x, exchanges[n]? = some x →
    x.outcome = (s.behaviour (s.attempts.length + n)).outcome limit

theorem exchanged_nil (limit : Option Duration) (s : Systemctl) : Exchanged limit s [] s :=
  ⟨rfl, (List.append_nil _).symm, by simp⟩

theorem exchanged_run (h : arePlain args = true) (limit : Option Duration) (s : Systemctl) :
    Exchanged limit s [s.next limit args] (s.run limit args).2 := by
  rw [run_of_arePlain h]
  refine ⟨rfl, rfl, ?_⟩
  intro n x hx
  cases n with
  | zero =>
    cases hx
    rfl
  | succ n => cases hx

theorem Exchanged.append (h : Exchanged limit s exchanges s') (h' : Exchanged limit s' more s'') :
    Exchanged limit s (exchanges ++ more) s'' where
  behaviour_eq := h'.behaviour_eq.trans h.behaviour_eq
  attempts_eq := by
    rw [h'.attempts_eq, h.attempts_eq, List.map_append, List.append_assoc]
  outcome_eq := by
    intro n x hx
    rcases Nat.lt_or_ge n exchanges.length with hn | hn
    · rw [List.getElem?_append_left hn] at hx
      exact h.outcome_eq n x hx
    · rw [List.getElem?_append_right hn] at hx
      have houtcome := h'.outcome_eq _ x hx
      have hlength : s'.attempts.length + (n - exchanges.length) = s.attempts.length + n := by
        rw [h.attempts_eq, List.length_append, List.length_map]
        omega
      rwa [h.behaviour_eq, hlength] at houtcome

end Systemctl

end ServiceSupervisor.Systemd
