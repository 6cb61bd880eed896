/-!
  Cancellation/Signal.lean --- a signal that is set once and seen by everybody.

  A signal is a flag and a channel with a single sender.  Nothing is ever sent:
  whoever sets the flag drops the sender, and that wakes all who wait on the
  channel.  Both operations take more than one step, and other parties may act in
  between; so the steps are given one by one.
-/

set_option autoImplicit false

namespace ServiceSupervisor.Cancellation

/-- A signal: whether the flag is set, and whether the sender is there. -/
structure Signal where
  isSet : Bool
  hasSender : Bool
  deriving DecidableEq, Repr, Inhabited

/-- What one party is doing with a signal. -/
inductive Activity where
  | idle
  /-- has set the flag, and is about to drop the sender -/
  | disconnecting
  /-- found the flag unset, and waits on the channel -/
  | waiting
  /-- waited long enough, and is about to look at the flag again -/
  | expired
  deriving DecidableEq, Repr, Inhabited

/-- What a party does next. -/
inductive Step where
  /-- sets the flag -/
  | cancel
  /-- drops the sender -/
  | disconnect
  /-- looks at the flag -/
  | look
  /-- looks at the flag, and waits if it is not set -/
  | wait
  /-- wakes up because the sender is gone -/
  | wake
  /-- the time of the wait is over -/
  | expire
  /-- looks at the flag after the wait -/
  | lookAgain
  deriving DecidableEq, Repr, Inhabited

namespace Signal

/-- A signal that nobody has cancelled. -/
def fresh : Signal := ⟨false, true⟩

/-- One step of a party: the signal and the party's activity after it, and the
answer if it completes an operation.  A step that the party cannot take changes
nothing. -/
def step (s : Signal) : Activity → Step → Signal × Activity × Option Bool
  | .idle, .cancel =>
    if s.isSet then (s, .idle, some false) else ({ s with isSet := true }, .disconnecting, none)
  | .disconnecting, .disconnect => ({ s with hasSender := false }, .idle, some true)
  | .idle, .look => (s, .idle, some s.isSet)
  | .idle, .wait => if s.isSet then (s, .idle, some true) else (s, .waiting, none)
  | .waiting, .wake => if s.hasSender then (s, .waiting, none) else (s, .idle, some true)
  | .waiting, .expire => (s, if s.hasSender then .expired else .waiting, none)
  | .expired, .lookAgain => (s, .idle, some s.isSet)
  | a, _ => (s, a, none)

/-! ## Whole operations, with nobody in between -/

/-- Sets the signal; the answer tells whether it was not set before. -/
def cancel (s : Signal) : Signal × Bool :=
  match s.step .idle .cancel with
  | (s, _, some answer) => (s, answer)
  | (s, a, none) =>
    let (s, _, answer) := s.step a .disconnect
    (s, answer.getD false)

/-- Waits until the time is over; the answer tells whether the signal is set. -/
def wait (s : Signal) : Bool :=
  match s.step .idle .wait with
  | (_, _, some answer) => answer
  | (s, a, none) =>
    let (s, a, _) := s.step a .expire
    ((s.step a .lookAgain).2.2).getD false

/-- What a party that waits answers when it is woken. -/
def woken (s : Signal) : Bool := ((s.step .waiting .wake).2.2).getD false

end Signal

end ServiceSupervisor.Cancellation
