import ServiceSupervisor.Cancellation.Signal

/-!
  Cancellation/Crowd.lean --- many parties at one signal.

  Each party holds one handle.  Parties take their steps in any order; a handle
  may be cloned, which makes a new party, or dropped, which ends one.  The signal
  goes with the last handle, and then nobody is left to see it.
-/

set_option autoImplicit false

namespace ServiceSupervisor.Cancellation

/-- An answer that a party got: to an attempt to set the signal, to a look at it,
or to a wait. -/
inductive Answered where
  | cancel (first : Bool)
  | look (isSet : Bool)
  | wait (isSet : Bool)
  deriving DecidableEq, Repr, Inhabited

/-- A signal, its parties, and the answers given so far with who got them. -/
structure Crowd where
  signal : Signal
  /-- what each party is doing, unless it has dropped its handle -/
  parties : List (Option Activity)
  answers : List (Nat × Answered)
  deriving DecidableEq, Repr, Inhabited

/-- What may happen in a crowd. -/
inductive Move where
  | step (who : Nat) (s : Step)
  | clone (who : Nat)
  | drop (who : Nat)
  deriving DecidableEq, Repr, Inhabited

/-- Which operation a step's answer completes. -/
def Step.answered : Step → Bool → Answered
  | cancel, b => .cancel b
  | disconnect, b => .cancel b
  | look, b => .look b
  | wait, b => .wait b
  | wake, b => .wait b
  | expire, b => .wait b
  | lookAgain, b => .wait b

namespace Crowd

/-- A fresh signal with one party. -/
def fresh : Crowd := ⟨.fresh, [some .idle], []⟩

/-- What a party is doing, if it is there. -/
def doing (c : Crowd) (who : Nat) : Option Activity := c.parties[who]?.join

/-- Whether anybody still has a handle. -/
def isHeld (c : Crowd) : Bool := c.parties.any (·.isSome)

/-- The step of a party that is at something. -/
def stepAt (c : Crowd) (who : Nat) (a : Activity) (s : Step) : Crowd :=
  let (signal, next, answer) := c.signal.step a s
  ⟨signal, c.parties.set who (some next),
    c.answers ++ (answer.map fun b => (who, s.answered b)).toList⟩

/-- Ends a party.  The sender does not outlive the last one. -/
def leave (c : Crowd) (who : Nat) : Crowd :=
  let parties := c.parties.set who none
  { c with
    signal := if parties.any (·.isSome) then c.signal else { c.signal with hasSender := false }
    parties := parties }

/-- What a move makes of the parties; one that has no party to make it changes nothing. -/
def move (c : Crowd) : Move → Crowd
  | .step who s =>
    match c.doing who with
    | some a => c.stepAt who a s
    | none => c
  | .clone who =>
    match c.doing who with
    | some _ => { c with parties := c.parties ++ [some .idle] }
    | none => c
  | .drop who =>
    match c.doing who with
    | some .idle => c.leave who
    | _ => c

/-- A sequence of moves. -/
def run (c : Crowd) (moves : List Move) : Crowd := moves.foldl move c

/-- Who begins an attempt to set the signal with a move. -/
def attempt? (c : Crowd) : Move → Option Nat
  | .step who .cancel => if c.doing who = some .idle then some who else none
  | _ => none

/-- Who attempted to set the signal in a sequence of moves, in that order. -/
def attempts (c : Crowd) : List Move → List Nat
  | [] => []
  | m :: moves => (c.attempt? m).toList ++ (c.move m).attempts moves

end Crowd

end ServiceSupervisor.Cancellation
