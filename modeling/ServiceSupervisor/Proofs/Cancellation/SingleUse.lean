import Mathlib.Data.List.Basic
import ServiceSupervisor.Cancellation.Crowd

/-!
  Proofs/Cancellation/SingleUse.lean --- a signal is set once, and everybody sees it.

  The flag and the sender change in separate steps, so between the two a party may
  find the flag set and the sender still there.  `Once` says how a crowd stands to
  the attempts made so far: it is kept by every move, whoever makes it, and the
  main statement `singleUse_run` is read off it.
-/

set_option autoImplicit false

namespace ServiceSupervisor.Cancellation

/-! ## What a party's step does -/

/-- The steps that a party can take at a signal: what it was at, the step, the signal
and what the party is at afterwards, and the answer. -/
inductive Taken (s : Signal) : Activity → Step → Signal → Activity → Option Bool → Prop
  | stays {a : Activity} {st : Step} (h : ¬ (a = .idle ∧ st = .cancel)) : Taken s a st s a none
  | refused (h : s.isSet = true) : Taken s .idle .cancel s .idle (some false)
  | sets (h : s.isSet = false) :
      Taken s .idle .cancel { s with isSet := true } .disconnecting none
  | disconnects :
      Taken s .disconnecting .disconnect { s with hasSender := false } .idle (some true)
  | looks : Taken s .idle .look s .idle (some s.isSet)
  | sees (h : s.isSet = true) : Taken s .idle .wait s .idle (some true)
  | blocks (h : s.isSet = false) : Taken s .idle .wait s .waiting none
  | wakes (h : s.hasSender = false) : Taken s .waiting .wake s .idle (some true)
  | expires (h : s.hasSender = true) : Taken s .waiting .expire s .expired none
  | looksAgain : Taken s .expired .lookAgain s .idle (some s.isSet)

theorem taken_step (s : Signal) (a : Activity) (st : Step) :
    Taken s a st (s.step a st).1 (s.step a st).2.1 (s.step a st).2.2 := by
  cases a <;> cases st <;> try exact .stays (by simp)
  case idle.cancel =>
    cases h : s.isSet
    · simpa [Signal.step, h] using Taken.sets h
    · simpa [Signal.step, h] using Taken.refused h
  case idle.look => exact .looks
  case idle.wait =>
    cases h : s.isSet
    · simpa [Signal.step, h] using Taken.blocks h
    · simpa [Signal.step, h] using Taken.sees h
  case disconnecting.disconnect => exact .disconnects
  case waiting.wake =>
    cases h : s.hasSender
    · simpa [Signal.step, h] using Taken.wakes h
    · have hstays : Taken s .waiting .wake s .waiting none := .stays (by simp)
      simpa [Signal.step, h] using hstays
  case waiting.expire =>
    cases h : s.hasSender
    · have hstays : Taken s .waiting .expire s .waiting none := .stays (by simp)
      simpa [Signal.step, h] using hstays
    · simpa [Signal.step, h] using Taken.expires h
  case expired.lookAgain => exact .looksAgain

/-- No step takes the flag back. -/
theorem Taken.isSet_mono {s s' : Signal} {a a' : Activity} {st : Step} {b : Option Bool}
    (h : Taken s a st s' a' b) (hs : s.isSet = true) : s'.isSet = true := by
  cases h <;> first | exact hs | rfl

namespace Crowd

variable {c : Crowd} {who w : Nat} {a : Activity}

/-! ## Who is at what -/

theorem lt_length_of_doing (h : c.doing who = some a) : who < c.parties.length := by
  by_contra hge
  simp [doing, List.getElem?_eq_none (Nat.le_of_not_lt hge)] at h

theorem parties_of_doing (h : c.doing who = some a) : c.parties[who]? = some (some a) := by
  simpa [doing, Option.join_eq_some_iff] using h

theorem isHeld_of_doing (h : c.doing who = some a) : c.isHeld = true := by
  rw [isHeld, List.any_eq_true]
  exact ⟨some a, List.mem_of_getElem? (parties_of_doing h), rfl⟩

theorem doing_set (s : Signal) (x : Option Activity) (answers : List (Nat × Answered))
    (hw : who < c.parties.length) :
    doing ⟨s, c.parties.set who x, answers⟩ w = if w = who then x else c.doing w := by
  by_cases h : w = who
  · subst h
    simp [doing, hw]
  · simp [doing, h, List.getElem?_set_ne (Ne.symm h)]

theorem doing_clone (w : Nat) :
    doing { c with parties := c.parties ++ [some .idle] } w =
      if w = c.parties.length then some .idle else c.doing w := by
  rcases Nat.lt_trichotomy w c.parties.length with h | h | h
  · simp [doing, List.getElem?_append_left h, Nat.ne_of_lt h]
  · simp [doing, h]
  · have hlen : (c.parties ++ [some Activity.idle]).length ≤ w := by
      rw [List.length_append, List.length_singleton]
      exact h
    simp [doing, List.getElem?_eq_none hlen, List.getElem?_eq_none (Nat.le_of_lt h),
      Nat.ne_of_gt h]

/-! ## Answers and runs -/

/-- Who got the answer `b` to an attempt to set the signal, in order. -/
def verdicts (c : Crowd) (b : Bool) : List Nat :=
  c.answers.filterMap fun e => if e.2 = .cancel b then some e.1 else none

theorem verdicts_append (s : Signal) (parties : List (Option Activity))
    (answers new : List (Nat × Answered)) (b : Bool) :
    verdicts ⟨s, parties, answers ++ new⟩ b =
      verdicts ⟨s, parties, answers⟩ b ++ verdicts ⟨s, parties, new⟩ b := by
  simp [verdicts]

theorem run_cons (c : Crowd) (m : Move) (ms : List Move) : c.run (m :: ms) = (c.move m).run ms :=
  rfl

/-! ## How a crowd stands to the attempts made so far -/

/-- How a crowd stands to the attempts made so far.  While the first to attempt has
set the flag and not yet dropped the sender, it has no answer; afterwards it has the
only favourable one. -/
structure Once (c : Crowd) (tries : List Nat) : Prop where
  isSet_iff : c.signal.isSet = true ↔ tries ≠ []
  isSet_of_gone : c.isHeld = true → c.signal.hasSender = false → c.signal.isSet = true
  lost : c.verdicts false = tries.tail
  won : c.verdicts true = tries.take 1 ∨
    c.verdicts true = [] ∧ ∃ first, tries.head? = some first ∧
      c.doing first = some .disconnecting
  gone : c.verdicts true ≠ [] → c.signal.hasSender = false
  setting : ∀ who, c.doing who = some .disconnecting →
    tries.head? = some who ∧ c.signal.hasSender = true ∧ c.verdicts true = []
  waited : ∀ who, (who, Answered.wait true) ∈ c.answers → tries ≠ []

theorem once_fresh : Once fresh [] where
  isSet_iff := by simp [fresh, Signal.fresh]
  isSet_of_gone := by simp [fresh, Signal.fresh]
  lost := rfl
  won := Or.inl rfl
  gone := fun h => absurd rfl h
  setting := by
    intro who h
    cases who <;> simp [fresh, doing] at h
  waited := by simp [fresh]

variable {tries : List Nat}

/-- A step that leaves the signal alone and answers no attempt.  It neither begins nor
ends a party's setting of the flag. -/
theorem Once.keep (h : Once c tries) (hd : c.doing who = some a) {next : Activity}
    (hn : next = .disconnecting ↔ a = .disconnecting) {new : List (Nat × Answered)}
    (hc : ∀ e ∈ new, ∀ b, e.2 ≠ .cancel b)
    (hw : ∀ e ∈ new, e.2 = .wait true → c.signal.isSet = true) :
    Once ⟨c.signal, c.parties.set who (some next), c.answers ++ new⟩ tries := by
  have hlen := lt_length_of_doing hd
  have hverdicts : ∀ b, verdicts ⟨c.signal, c.parties.set who (some next), c.answers ++ new⟩ b =
      c.verdicts b := by
    intro b
    rw [verdicts_append]
    simpa [verdicts] using fun n ans he => hc (n, ans) he b
  have hdoing : ∀ w, doing ⟨c.signal, c.parties.set who (some next), c.answers ++ new⟩ w =
      some .disconnecting ↔ c.doing w = some .disconnecting := by
    intro w
    rw [doing_set _ _ _ hlen]
    split
    · next he => rw [he, hd, Option.some.injEq, Option.some.injEq, hn]
    · rfl
  refine ⟨h.isSet_iff, fun _ => h.isSet_of_gone (isHeld_of_doing hd), ?_, ?_, ?_, ?_, ?_⟩
  · rw [hverdicts, h.lost]
  · simpa only [hverdicts, hdoing] using h.won
  · rw [hverdicts]; exact h.gone
  · intro w hw'
    rw [hverdicts]
    exact h.setting w ((hdoing w).mp hw')
  · intro w hmem
    rcases List.mem_append.mp hmem with hmem | hmem
    · exact h.waited w hmem
    · exact h.isSet_iff.mp (hw _ hmem rfl)

/-- An attempt that finds the flag set fails. -/
theorem Once.refuse (h : Once c tries) (hd : c.doing who = some .idle)
    (hs : c.signal.isSet = true) :
    Once ⟨c.signal, c.parties.set who (some .idle), c.answers ++ [(who, .cancel false)]⟩
      (tries ++ [who]) := by
  have hlen := lt_length_of_doing hd
  obtain ⟨first, rest, rfl⟩ := List.exists_cons_of_ne_nil (h.isSet_iff.mp hs)
  have htrue : verdicts ⟨c.signal, c.parties.set who (some .idle),
      c.answers ++ [(who, .cancel false)]⟩ true = c.verdicts true := by
    simp [verdicts]
  have hdoing : ∀ w, doing ⟨c.signal, c.parties.set who (some .idle),
      c.answers ++ [(who, .cancel false)]⟩ w = c.doing w := by
    intro w
    rw [doing_set _ _ _ hlen]
    split
    · next he => rw [he, hd]
    · rfl
  refine ⟨by simpa using hs, fun _ => h.isSet_of_gone (isHeld_of_doing hd), ?_, ?_, ?_, ?_, ?_⟩
  · have hlost : c.verdicts false = rest := h.lost
    simpa [verdicts] using hlost
  · simpa only [htrue, hdoing, List.cons_append, List.take_succ_cons, List.take_zero,
      List.head?_cons] using h.won
  · rw [htrue]; exact h.gone
  · intro w hw
    rw [htrue]
    rw [hdoing] at hw
    exact h.setting w hw
  · intro w hmem
    simp

/-- The attempt that finds the flag unset sets it. -/
theorem Once.set (h : Once c tries) (hd : c.doing who = some .idle)
    (hs : c.signal.isSet = false) :
    Once ⟨{ c.signal with isSet := true }, c.parties.set who (some .disconnecting), c.answers⟩
      (tries ++ [who]) := by
  have hlen := lt_length_of_doing hd
  have hnil : tries = [] := by
    by_contra hne
    simp [h.isSet_iff.mpr hne] at hs
  subst hnil
  have hsender : c.signal.hasSender = true := by
    by_contra hgone
    have := h.isSet_of_gone (isHeld_of_doing hd) (by simpa using hgone)
    simp [this] at hs
  have hnone : c.verdicts true = [] := by
    rcases h.won with hwon | hwon
    · simpa using hwon
    · exact hwon.1
  refine ⟨by simp, fun _ _ => rfl, h.lost, Or.inr ⟨hnone, who, rfl, ?_⟩,
    fun hne => absurd hnone hne, ?_, fun _ _ => by simp⟩
  · rw [doing_set _ _ _ hlen, if_pos rfl]
  · intro w hw
    rw [doing_set _ _ _ hlen] at hw
    split at hw
    · next he => exact ⟨by rw [he]; rfl, hsender, hnone⟩
    · next he => exact absurd (h.setting w hw).1 (by simp)

/-- Whoever set the flag drops the sender and has succeeded. -/
theorem Once.disconnect (h : Once c tries) (hd : c.doing who = some .disconnecting) :
    Once ⟨{ c.signal with hasSender := false }, c.parties.set who (some .idle),
      c.answers ++ [(who, .cancel true)]⟩ tries := by
  have hlen := lt_length_of_doing hd
  obtain ⟨hhead, -, hnone⟩ := h.setting who hd
  obtain ⟨rest, rfl⟩ := List.head?_eq_some_iff.mp hhead
  have htrue : verdicts ⟨{ c.signal with hasSender := false }, c.parties.set who (some .idle),
      c.answers ++ [(who, .cancel true)]⟩ true = [who] := by
    have := hnone
    simp only [verdicts] at this ⊢
    simp [this]
  refine ⟨h.isSet_iff, fun _ _ => h.isSet_iff.mpr (by simp), ?_, Or.inl (by rw [htrue]; rfl),
    fun _ => rfl, ?_, fun _ _ => by simp⟩
  · have hlost : c.verdicts false = rest := h.lost
    simpa [verdicts] using hlost
  · intro w hw
    rw [doing_set _ _ _ hlen] at hw
    split at hw
    · cases hw
    · next hne =>
      have := (h.setting w hw).1
      rw [hhead] at this
      exact absurd (Option.some.inj this).symm hne

/-- A party's step keeps the standing, with the attempt it makes added. -/
theorem Once.step (h : Once c tries) (hd : c.doing who = some a) (st : Step) :
    Once (c.stepAt who a st) (tries ++ (c.attempt? (.step who st)).toList) := by
  have htaken := taken_step c.signal a st
  unfold stepAt
  generalize c.signal.step a st = result at htaken ⊢
  obtain ⟨s', a', answer⟩ := result
  -- a step that is no attempt adds nothing to the attempts
  have hquiet : ¬ (a = .idle ∧ st = .cancel) →
      tries ++ (c.attempt? (.step who st)).toList = tries := by
    intro hno
    cases st <;> simp [attempt?]
    intro hidle
    rw [hd, Option.some.injEq] at hidle
    exact hno ⟨hidle, rfl⟩
  cases htaken with
  | stays hno =>
    rw [hquiet hno]
    exact h.keep hd Iff.rfl (by simp) (by simp)
  | refused hs => simpa [attempt?, hd, Step.answered] using h.refuse hd hs
  | sets hs => simpa [attempt?, hd] using h.set hd hs
  | disconnects => simpa [attempt?, Step.answered] using h.disconnect hd
  | looks =>
    rw [hquiet (by simp)]
    exact h.keep hd Iff.rfl (by simp [Step.answered]) (by simp [Step.answered])
  | sees hs =>
    rw [hquiet (by simp)]
    exact h.keep hd Iff.rfl (by simp [Step.answered]) (by simp [hs])
  | blocks hs =>
    rw [hquiet (by simp)]
    exact h.keep hd (by simp) (by simp) (by simp)
  | wakes hs =>
    rw [hquiet (by simp)]
    exact h.keep hd (by simp) (by simp [Step.answered])
      (by simp [h.isSet_of_gone (isHeld_of_doing hd) hs])
  | expires hs =>
    rw [hquiet (by simp)]
    exact h.keep hd (by simp) (by simp) (by simp)
  | looksAgain =>
    rw [hquiet (by simp)]
    exact h.keep hd (by simp) (by simp [Step.answered]) (by simp [Step.answered])

theorem doing_clone_disconnecting (w : Nat) :
    doing { c with parties := c.parties ++ [some .idle] } w = some .disconnecting ↔
      c.doing w = some .disconnecting := by
  rw [doing_clone]
  split
  · next he =>
    subst he
    simp [doing]
  · rfl

theorem Once.clone (h : Once c tries) (hd : c.doing who = some a) :
    Once { c with parties := c.parties ++ [some .idle] } tries := by
  refine ⟨h.isSet_iff, fun _ => h.isSet_of_gone (isHeld_of_doing hd), h.lost, ?_, h.gone, ?_,
    h.waited⟩
  · simp only [doing_clone_disconnecting]
    exact h.won
  · intro w hw
    exact h.setting w ((doing_clone_disconnecting w).mp hw)

theorem signal_leave_of_isHeld (h : (c.leave who).isHeld = true) :
    (c.leave who).signal = c.signal :=
  if_pos h

theorem isSet_leave : (c.leave who).signal.isSet = c.signal.isSet := by
  simp only [leave]
  split <;> rfl

theorem hasSender_leave_of_false (h : c.signal.hasSender = false) :
    (c.leave who).signal.hasSender = false := by
  simp only [leave]
  split
  · exact h
  · rfl

theorem doing_leave (hd : c.doing who = some a) (w : Nat) :
    (c.leave who).doing w = if w = who then none else c.doing w :=
  doing_set _ _ _ (lt_length_of_doing hd)

theorem Once.leave (h : Once c tries) (hd : c.doing who = some .idle) :
    Once (c.leave who) tries := by
  have hdoing : ∀ w, (c.leave who).doing w = some .disconnecting ↔
      c.doing w = some .disconnecting := by
    intro w
    rw [doing_leave hd]
    split
    · next he => simp [he, hd]
    · rfl
  refine ⟨by rw [isSet_leave]; exact h.isSet_iff, ?_, h.lost, ?_, ?_, ?_, h.waited⟩
  · intro hheld hgone
    rw [signal_leave_of_isHeld hheld] at hgone ⊢
    exact h.isSet_of_gone (isHeld_of_doing hd) hgone
  · simp only [hdoing]
    exact h.won
  · exact fun hne => hasSender_leave_of_false (h.gone hne)
  · intro w hw
    -- whoever is setting the flag still has a handle, so the signal is as it was
    rw [signal_leave_of_isHeld (isHeld_of_doing hw)]
    exact h.setting w ((hdoing w).mp hw)

/-- Every move keeps the standing, with the attempt it makes added. -/
theorem Once.move (h : Once c tries) (m : Move) :
    Once (c.move m) (tries ++ (c.attempt? m).toList) := by
  cases m with
  | step who st =>
    simp only [Crowd.move]
    cases hd : c.doing who with
    | none =>
      have hno : c.attempt? (.step who st) = none := by cases st <;> simp [attempt?, hd]
      simpa [hno] using h
    | some a => exact h.step hd st
  | clone who =>
    simp only [Crowd.move, attempt?, Option.toList_none, List.append_nil]
    cases hd : c.doing who with
    | none => exact h
    | some a => exact h.clone hd
  | drop who =>
    simp only [Crowd.move, attempt?, Option.toList_none, List.append_nil]
    split
    · next hd => exact h.leave hd
    · exact h

/-- Whatever the moves are, a crowd stands to its attempts as it should. -/
theorem Once.run (h : Once c tries) (moves : List Move) :
    Once (c.run moves) (tries ++ c.attempts moves) := by
  induction moves generalizing c tries with
  | nil => simpa [Crowd.run, attempts] using h
  | cons m moves ih =>
    rw [run_cons, attempts, ← List.append_assoc]
    exact ih (h.move m)

theorem once_run (moves : List Move) : Once (fresh.run moves) (fresh.attempts moves) := by
  simpa using once_fresh.run moves

/-! ## The flag, and what waits are told -/

theorem isSet_move (h : c.signal.isSet = true) (m : Move) : (c.move m).signal.isSet = true := by
  cases m with
  | step who st =>
    simp only [Crowd.move]
    split
    · next a hd => exact (taken_step c.signal a st).isSet_mono h
    · exact h
  | clone who =>
    simp only [Crowd.move]
    split <;> exact h
  | drop who =>
    simp only [Crowd.move]
    split
    · rw [isSet_leave]; exact h
    · exact h

theorem isSet_run (h : c.signal.isSet = true) (moves : List Move) :
    (c.run moves).signal.isSet = true := by
  induction moves generalizing c with
  | nil => exact h
  | cons m moves ih => exact ih (isSet_move h m)

/-- What a move adds to the answers. -/
theorem answers_move (c : Crowd) (m : Move) :
    ∃ new, (c.move m).answers = c.answers ++ new ∧
      ∀ who, (who, Answered.wait false) ∈ new →
        m = .step who .lookAgain ∧ c.signal.isSet = false := by
  cases m with
  | step who st =>
    simp only [Crowd.move]
    split
    · next a hd =>
      have htaken := taken_step c.signal a st
      refine ⟨((c.signal.step a st).2.2.map fun b => (who, st.answered b)).toList, rfl, ?_⟩
      generalize c.signal.step a st = result at htaken ⊢
      obtain ⟨s', a', answer⟩ := result
      intro w hmem
      cases htaken <;> simp_all [Step.answered]
    · exact ⟨[], by simp, by simp⟩
  | clone who =>
    simp only [Crowd.move]
    split <;> exact ⟨[], by simp, by simp⟩
  | drop who =>
    simp only [Crowd.move]
    split <;> exact ⟨[], by simp [leave], by simp⟩

/-- From when the flag is set no wait is told otherwise. -/
theorem answers_run_of_isSet (h : c.signal.isSet = true) (moves : List Move) :
    ∃ new, (c.run moves).answers = c.answers ++ new ∧
      ∀ who, (who, Answered.wait false) ∉ new := by
  induction moves generalizing c with
  | nil => exact ⟨[], by simp [Crowd.run], by simp⟩
  | cons m moves ih =>
    obtain ⟨now, hnow, hno⟩ := answers_move c m
    obtain ⟨later, hlater, hnone⟩ := ih (isSet_move h m)
    refine ⟨now ++ later, by rw [run_cons, hlater, hnow, List.append_assoc], ?_⟩
    intro who hmem
    rcases List.mem_append.mp hmem with hmem | hmem
    · simp [(hno who hmem).2] at h
    · exact hnone who hmem

theorem mem_verdicts {b : Bool} (h : (who, Answered.cancel b) ∈ c.answers) :
    who ∈ c.verdicts b :=
  List.mem_filterMap.mpr ⟨_, h, by simp⟩

/-- An attempt has an answer only when the flag is set. -/
theorem Once.isSet_of_answered (h : Once c tries) {b : Bool}
    (hmem : (who, Answered.cancel b) ∈ c.answers) : c.signal.isSet = true := by
  have hverdict := mem_verdicts hmem
  rw [h.isSet_iff]
  rintro rfl
  cases b with
  | false => simp [h.lost] at hverdict
  | true => rcases h.won with hwon | hwon <;> simp [hwon] at hverdict

theorem parties_set_of_doing (hd : c.doing who = some a) :
    c.parties.set who (some a) = c.parties := by
  obtain ⟨hlt, hget⟩ := List.getElem?_eq_some_iff.mp (parties_of_doing hd)
  rw [← hget, List.set_getElem_self]

/-- A wait that begins when the flag is set does not block. -/
theorem move_wait_of_isSet (hd : c.doing who = some .idle) (h : c.signal.isSet = true) :
    c.move (.step who .wait) = { c with answers := c.answers ++ [(who, .wait true)] } := by
  simp [Crowd.move, hd, stepAt, Signal.step, h, Step.answered, parties_set_of_doing hd]

/-- A party that is blocked when the sender is gone wakes up, and can do nothing else. -/
theorem move_of_waiting (hd : c.doing who = some .waiting) (h : c.signal.hasSender = false)
    (st : Step) :
    c.move (.step who st) =
      if st = .wake then
        ⟨c.signal, c.parties.set who (some .idle), c.answers ++ [(who, .wait true)]⟩
      else c := by
  cases st <;>
    simp [Crowd.move, hd, stepAt, Signal.step, h, Step.answered, parties_set_of_doing hd]

/-! ## The main statement -/

/-- What a crowd makes of one signal that `tries` attempted to set, in that order. -/
structure SingleUse (c : Crowd) (tries : List Nat) : Prop where
  /-- an attempt sets the flag, and nothing else does -/
  isSet_iff : c.signal.isSet = true ↔ tries ≠ []
  /-- whoever finds the sender gone finds the flag set -/
  isSet_of_gone : c.isHeld = true → c.signal.hasSender = false → c.signal.isSet = true
  /-- the flag never goes back -/
  stays : c.signal.isSet = true → ∀ more, (c.run more).signal.isSet = true
  /-- all attempts but the first fail, in their order -/
  lost : c.verdicts false = tries.tail
  /-- the first attempt succeeds, or is about to: it has only to drop the sender; no
  other does -/
  won : c.verdicts true = tries.take 1 ∨
    c.verdicts true = [] ∧ ∃ first, tries.head? = some first ∧
      (c.move (.step first .disconnect)).verdicts true = [first]
  /-- a wait is told that the signal is set only if an attempt has set it -/
  wait_true : ∀ who, (who, Answered.wait true) ∈ c.answers → tries ≠ []
  /-- a wait is told that it is not set only by its last look, which found it so -/
  wait_false : ∀ m who, (c.move m).answers = c.answers ++ [(who, .wait false)] →
    m = .step who .lookAgain ∧ c.signal.isSet = false
  /-- a wait that begins after any attempt was answered is answered at once -/
  wait_after : ∀ who b, (who, Answered.cancel b) ∈ c.answers → ∀ more w,
    (c.run more).doing w = some .idle →
      (c.run more).move (.step w .wait) =
        { c.run more with answers := (c.run more).answers ++ [(w, .wait true)] }
  /-- when the sender is gone, whoever is blocked can only wake up, -/
  woken : c.signal.hasSender = false → ∀ who, c.doing who = some .waiting → ∀ st,
    c.move (.step who st) =
      if st = .wake then
        ⟨c.signal, c.parties.set who (some .idle), c.answers ++ [(who, .wait true)]⟩
      else c
  /-- and no wait is told any more that the signal is not set -/
  gone_for_good : c.isHeld = true → c.signal.hasSender = false → ∀ more,
    ∃ new, (c.run more).answers = c.answers ++ new ∧ ∀ who, (who, Answered.wait false) ∉ new
  /-- a handle that is cloned changes nothing for anybody, -/
  cloned : ∀ who, (c.move (.clone who)).signal = c.signal ∧
    (c.move (.clone who)).answers = c.answers ∧
    ∀ w a, c.doing w = some a → (c.move (.clone who)).doing w = some a
  /-- nor does one that is dropped, as long as there is another -/
  dropped : ∀ who, (c.move (.drop who)).isHeld = true →
    (c.move (.drop who)).signal = c.signal ∧ (c.move (.drop who)).answers = c.answers ∧
    ∀ w a, w ≠ who → c.doing w = some a → (c.move (.drop who)).doing w = some a

theorem move_clone (who : Nat) :
    (c.move (.clone who)).signal = c.signal ∧ (c.move (.clone who)).answers = c.answers ∧
      ∀ w a, c.doing w = some a → (c.move (.clone who)).doing w = some a := by
  simp only [Crowd.move]
  split
  · refine ⟨rfl, rfl, fun w a hw => ?_⟩
    rw [doing_clone, if_neg (Nat.ne_of_lt (lt_length_of_doing hw))]
    exact hw
  · exact ⟨rfl, rfl, fun w a hw => hw⟩

theorem move_drop (who : Nat) (hheld : (c.move (.drop who)).isHeld = true) :
    (c.move (.drop who)).signal = c.signal ∧ (c.move (.drop who)).answers = c.answers ∧
      ∀ w a, w ≠ who → c.doing w = some a → (c.move (.drop who)).doing w = some a := by
  simp only [Crowd.move] at hheld ⊢
  split at hheld
  · next hd =>
    refine ⟨signal_leave_of_isHeld hheld, rfl, fun w a hne hw => ?_⟩
    rw [doing_leave hd, if_neg hne]
    exact hw
  · exact ⟨rfl, rfl, fun w a _ hw => hw⟩

/-- However the parties' steps, clones and drops are interleaved, the signal is set at
most once and everybody sees it. -/
theorem singleUse_run (moves : List Move) :
    SingleUse (fresh.run moves) (fresh.attempts moves) where
  isSet_iff := (once_run moves).isSet_iff
  isSet_of_gone := (once_run moves).isSet_of_gone
  stays := isSet_run
  lost := (once_run moves).lost
  won := by
    refine (once_run moves).won.imp id fun ⟨hnone, first, hhead, hd⟩ => ⟨hnone, first, hhead, ?_⟩
    have hwon : verdicts _ true = [] := hnone
    simp only [verdicts] at hwon
    simp [Crowd.move, hd, stepAt, Signal.step, Step.answered, verdicts, hwon]
  wait_true := (once_run moves).waited
  wait_false := by
    intro m who h
    obtain ⟨new, hnew, hno⟩ := answers_move (fresh.run moves) m
    rw [hnew, List.append_cancel_left_eq] at h
    exact hno who (by simp [h])
  wait_after := by
    intro who b hmem more w hd
    exact move_wait_of_isSet hd (isSet_run ((once_run moves).isSet_of_answered hmem) more)
  woken := fun hgone who hd st => move_of_waiting hd hgone st
  gone_for_good := fun hheld hgone =>
    answers_run_of_isSet ((once_run moves).isSet_of_gone hheld hgone)
  cloned := move_clone
  dropped := move_drop

/-- One party waits, one sets the signal, and one comes too late. -/
example :
    (fresh.run [.clone 0, .clone 0, .step 1 .wait, .step 0 .cancel, .step 2 .cancel,
      .step 0 .disconnect, .step 1 .wake]).answers =
    [(2, .cancel false), (0, .cancel true), (1, .wait true)] := by decide

end Crowd

end ServiceSupervisor.Cancellation
