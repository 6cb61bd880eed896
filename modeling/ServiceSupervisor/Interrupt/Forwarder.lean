import ServiceSupervisor.Interrupt.Signals

/-!
  Interrupt/Forwarder.lean --- passing the first interrupt on.

  The forwarder looks at the cell from time to time.  The first request it finds
  there it sends on, and with that its work is done.
-/

set_option autoImplicit false

namespace ServiceSupervisor.Interrupt

/-- The cell, what the forwarder sent, and what it logged. -/
structure Forwarder where
  cell : Cell
  sent : Option Request
  /-- how often it has looked -/
  looks : Nat
  log : List Entry
  deriving DecidableEq, Repr, Inhabited

namespace Forwarder

/-- A forwarder that has not looked yet. -/
def new : Forwarder := ⟨.empty, none, 0, []⟩

/-- What may happen around a forwarder. -/
inductive Act where
  | signal (number : Nat)
  | look
  deriving DecidableEq, Repr, Inhabited

/-- The line logged when a request is sent on. -/
def sendNote (r : Request) : Entry := ⟨.interrupts, .info, r.name ++ " received – orderly shutdown"⟩

/-- What an act makes of the forwarder, which looks no more once it has sent its request. -/
def act (f : Forwarder) : Act → Forwarder
  | .signal number => { f with cell := f.cell.record number }
  | .look =>
    match f.sent with
    | some _ => f
    | none =>
      let (answer, cell) := f.cell.check
      match answer.value with
      | none => ⟨cell, none, f.looks + 1, f.log ++ answer.log⟩
      | some r => ⟨cell, some r, f.looks + 1, f.log ++ answer.log ++ [sendNote r]⟩

/-- The forwarder after some acts. -/
def run (f : Forwarder) (acts : List Act) : Forwarder := acts.foldl act f

end Forwarder

end ServiceSupervisor.Interrupt
