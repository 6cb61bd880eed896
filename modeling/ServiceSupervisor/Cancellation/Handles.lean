import ServiceSupervisor.Cancellation.Signal

/-!
  Cancellation/Handles.lean --- handles to signals, each used on its own.

  Handles are kept in a list; clones share their signal.  A handle is picked by
  its position, counted round the list.
-/

set_option autoImplicit false

namespace ServiceSupervisor.Cancellation

/-- Signals, and for each handle the number of its signal. -/
structure Handles where
  signals : List Signal
  handles : List Nat
  deriving DecidableEq, Repr, Inhabited

namespace Handles

/-- One handle to a new signal. -/
def fresh : Handles := ⟨[.fresh], [0]⟩

/-- The position that a number picks. -/
def position (h : Handles) (on : Nat) : Nat := on % h.handles.length

/-- The number of the signal behind a picked handle. -/
def behind (h : Handles) (on : Nat) : Nat := h.handles.getD (h.position on) 0

/-- The signal behind a handle. -/
def signal (h : Handles) (on : Nat) : Signal := h.signals.getD (h.behind on) .fresh

/-- Adds a handle to a new signal, and tells its position. -/
def new (h : Handles) : Handles × Nat :=
  (⟨h.signals ++ [.fresh], h.handles ++ [h.signals.length]⟩, h.handles.length)

/-- Adds another handle to a picked one's signal, and tells its position. -/
def clone (h : Handles) (on : Nat) : Handles × Nat :=
  ({ h with handles := h.handles ++ [h.behind on] }, h.handles.length)

/-- Removes a picked handle, unless it is the only one, and tells how many are left. -/
def drop (h : Handles) (on : Nat) : Handles × Option Nat :=
  if h.handles.length ≤ 1 then (h, none)
  else
    let left := h.handles.eraseIdx (h.position on)
    ({ h with handles := left }, some left.length)

/-- Cancels through a handle, and says whether that was the first time. -/
def cancel (h : Handles) (on : Nat) : Handles × Bool :=
  let (s, answer) := (h.signal on).cancel
  ({ h with signals := h.signals.set (h.behind on) s }, answer)

/-- Whether the signal behind a handle is cancelled. -/
def isCancelled (h : Handles) (on : Nat) : Bool := (h.signal on).isSet

/-- Waits through a handle. -/
def wait (h : Handles) (on : Nat) : Bool := (h.signal on).wait

/-- Lets `n` parties wait, and then sets the signal.  Tells the answer to that, and
what each wait answers. -/
def wakeAll (h : Handles) (on n : Nat) : Handles × Bool × List Bool :=
  let early := (h.signal on).isSet
  let (h, answer) := h.cancel on
  (h, answer, List.replicate n (if early then true else (h.signal on).woken))

end Handles

end ServiceSupervisor.Cancellation
