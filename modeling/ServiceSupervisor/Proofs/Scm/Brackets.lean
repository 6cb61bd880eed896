import ServiceSupervisor.Proofs.Sequence
import ServiceSupervisor.Scm.Api

/-!
  Proofs/Scm/Brackets.lean --- the calls of a use of the interface, one by one, and the
  handles that are open between them.

  A use goes by a course: the calls that it makes in order, each of which may depend on
  what came of those before, up to the first that fails.  The calls that close handles
  stand between them like brackets: what was opened last is closed first.
-/

set_option autoImplicit false

namespace ServiceSupervisor.Scm

/-! ## Calls and what comes of them -/

namespace ApiCall

/-- The call that closes the handle which this one gives, if it gives one. -/
def closing? : ApiCall → Option (Nat → ApiCall)
  | openManager _ => some closeHandle
  | openService _ _ _ => some closeHandle
  | createService _ _ _ _ => some closeHandle
  | createKey _ => some closeKey
  | _ => none

/-- The handle that a call closes, if it closes one. -/
def closes? : ApiCall → Option Nat
  | closeHandle handle => some handle
  | closeKey key => some key
  | _ => none

/-- The handles that a call needs open. -/
def uses : ApiCall → List Nat
  | openService manager _ _ => [manager]
  | queryStatus service => [service]
  | startService service => [service]
  | controlStop service => [service]
  | deleteService service => [service]
  | createService manager _ _ _ => [manager]
  | closeHandle handle => [handle]
  | closeKey key => [key]
  | openManager _ => []
  | createKey _ => []

theorem closes?_closing {c : ApiCall} {closing : Nat → ApiCall} (h : c.closing? = some closing)
    (handle : Nat) :
    c.closes? = none ∧ (closing handle).closing? = none ∧
      (closing handle).closes? = some handle := by
  cases c <;> cases h <;> exact ⟨rfl, rfl, rfl⟩

end ApiCall

/-- A call and what came of it: an error, or the handle or the state that it gives. -/
structure Exchange where
  call : ApiCall
  result : Except Win32Error Nat
  deriving Repr

namespace Exchange

/-- The handle that came of a call, if one did. -/
def handle? (x : Exchange) : Option Nat := x.call.closing?.bind fun _ => x.result.toOption

/-- The handle that the call of an exchange closes. -/
def closes? (x : Exchange) : Option Nat := x.call.closes?

/-- Exchanges without those that close a handle. -/
def withoutClosings (xs : List Exchange) : List Exchange := xs.filter (·.closes?.isNone)

/-- The handles that are opened, in order. -/
def opened (xs : List Exchange) : List Nat := xs.filterMap handle?

/-- The handles that are closed, in order. -/
def closed (xs : List Exchange) : List Nat := xs.filterMap closes?

end Exchange

open Exchange (opened closed withoutClosings)

/-- Makes a call: what comes of it, and the interface after it. -/
def Interface.meet (i : Interface) (c : ApiCall) : Exchange × Interface :=
  match i.next c with
  | .fails e => (⟨c, .error e⟩, i.keep c)
  | .succeeds state =>
    if c.closing?.isSome then
      (⟨c, .ok (i.handles + 1)⟩, { i.keep c with handles := i.handles + 1 })
    else (⟨c, .ok state⟩, i.keep c)

/-- The exchanges lead from the one interface to the other, whatever is logged meanwhile. -/
inductive Trace : Interface → List Exchange → Interface → Prop
  | nil (i : Interface) (log : List Entry) : Trace i [] { i with log }
  | cons {i i' i'' : Interface} {c : ApiCall} {x : Exchange} {xs : List Exchange}
    (hmeet : i.meet c = (x, i')) (h : Trace i' xs i'') : Trace i (x :: xs) i''

/-- Exchanges that need no handle but those that are held, and leave none behind: each is
closed when everything opened after it is closed, and not used from then on. -/
inductive Bracketed : List Nat → List Exchange → Prop
  | nil {held : List Nat} : Bracketed held []
  | plain {held : List Nat} {x : Exchange} {xs : List Exchange}
    (huses : ∀ h ∈ x.call.uses, h ∈ held) (hopens : x.handle? = none)
    (hcloses : x.closes? = none) (hrest : Bracketed held xs) : Bracketed held (x :: xs)
  | bracket {held : List Nat} {x x' : Exchange} {handle : Nat} {closing : Nat → ApiCall}
    {body xs : List Exchange} (huses : ∀ h ∈ x.call.uses, h ∈ held)
    (hopens : x.handle? = some handle) (hclosing : x.call.closing? = some closing)
    (hcloses : x'.call = closing handle) (hbody : Bracketed (handle :: held) body)
    (hrest : Bracketed held xs) : Bracketed held (x :: body ++ x' :: xs)

/-! ## Courses -/

/-- The calls that are made one after the other, where the next may depend on what came of
the last, and what comes of them all. -/
inductive Course (α : Type) where
  | done (a : α)
  | call (c : ApiCall) (next : Nat → Course α)

/-- A call that failed. -/
structure Failure where
  call : ApiCall
  error : Win32Error
  deriving DecidableEq, Repr

/-- The exchanges go by a course, up to the first call that fails. -/
inductive Follows {α : Type} : Course α → List Exchange → Except Failure α → Prop
  | done (a : α) : Follows (.done a) [] (.ok a)
  | failed (c : ApiCall) (next : Nat → Course α) (e : Win32Error) :
    Follows (.call c next) [⟨c, .error e⟩] (.error ⟨c, e⟩)
  | went {c : ApiCall} {next : Nat → Course α} {n : Nat} {xs : List Exchange}
    {outcome : Except Failure α} (h : Follows (next n) xs outcome) :
    Follows (.call c next) (⟨c, .ok n⟩ :: xs) outcome

/-- What a use did to the interface: apart from closings its calls went by the course, with
this outcome, and everything it opened is closed again, once, and nothing else is. -/
def Conducted {α : Type} (course : Course α) (i : Interface) (outcome : Except Failure α)
    (i' : Interface) : Prop :=
  ∃ xs, Trace i xs i' ∧ i'.calls = i.calls ++ xs.map (·.call) ∧
    Follows course (withoutClosings xs) outcome ∧ Bracketed [] xs ∧
    (opened xs).Nodup ∧ (closed xs).Perm (opened xs)

/-! ## Traces -/

section Traces

variable {i i' i'' : Interface} {c : ApiCall} {x : Exchange} {xs ys : List Exchange}
  {held : List Nat}

theorem meet_of_fails {e : Win32Error} (h : i.next c = .fails e) :
    i.meet c = (⟨c, .error e⟩, i.keep c) := by
  simp only [Interface.meet, h]

theorem meet_of_opens {state : Nat} (h : i.next c = .succeeds state)
    (hopens : c.closing?.isSome = true) :
    i.meet c = (⟨c, .ok (i.handles + 1)⟩, { i.keep c with handles := i.handles + 1 }) := by
  simp only [Interface.meet, h, hopens, if_true]

theorem meet_of_succeeds {state : Nat} (h : i.next c = .succeeds state)
    (hopens : c.closing? = none) :
    i.meet c = (⟨c, .ok state⟩, i.keep c) := by
  simp [Interface.meet, h, hopens]

theorem meet_withLog (i : Interface) (c : ApiCall) (log : List Entry) :
    Interface.meet { i with log } c = ((i.meet c).1, { (i.meet c).2 with log }) := by
  have hnext : Interface.next { i with log } c = i.next c := rfl
  simp only [Interface.meet, hnext]
  split
  · rfl
  · split <;> rfl

/-- What was logged before makes no difference to what comes of the calls. -/
theorem Trace.withLog (h : Trace i xs i') (log : List Entry) : Trace { i with log } xs i' := by
  induction h generalizing log with
  | nil i log' => exact .nil { i with log } log'
  | @cons i i' i'' c x xs hmeet _ ih =>
    have hmeet' := meet_withLog i c log
    rw [hmeet] at hmeet'
    exact .cons hmeet' (ih log)

theorem Trace.append (h : Trace i xs i') (h' : Trace i' ys i'') : Trace i (xs ++ ys) i'' := by
  induction h with
  | nil i log => exact h'.withLog i.log
  | cons hmeet _ ih => exact .cons hmeet (ih h')

theorem exists_meet (i : Interface) (c : ApiCall) :
    ∃ result i', i.meet c = (⟨c, result⟩, i') := by
  rw [Interface.meet]
  split
  · exact ⟨_, _, rfl⟩
  · split <;> exact ⟨_, _, rfl⟩

theorem call_of_meet (hopens : c.closing? = none) (h : i.meet c = (x, i')) :
    Session.call c i = (x.result, i') := by
  cases hnext : i.next c with
  | fails e =>
    rw [meet_of_fails hnext] at h
    cases h
    rw [Session.call, hnext]
  | succeeds state =>
    rw [meet_of_succeeds hnext hopens] at h
    cases h
    rw [Session.call, hnext]

theorem acquire_of_meet (hopens : c.closing?.isSome = true) (h : i.meet c = (x, i')) :
    Session.acquire c i = (x.result, i') := by
  cases hnext : i.next c with
  | fails e =>
    rw [meet_of_fails hnext] at h
    cases h
    rw [Session.acquire, hnext]
  | succeeds state =>
    rw [meet_of_opens hnext hopens] at h
    cases h
    rw [Session.acquire, hnext]

theorem calls_meet (i : Interface) (c : ApiCall) :
    (i.meet c).2.calls = i.calls ++ [(i.meet c).1.call] := by
  rw [Interface.meet]
  split
  · rfl
  · split <;> rfl

/-- The calls of the exchanges are the calls that are kept. -/
theorem Trace.calls_eq (h : Trace i xs i') : i'.calls = i.calls ++ xs.map (·.call) := by
  induction h with
  | nil => exact (List.append_nil _).symm
  | @cons i i' i'' c x xs hmeet _ ih =>
    have hcalls := calls_meet i c
    rw [hmeet] at hcalls
    rw [ih, hcalls, List.append_assoc, List.map_cons, List.singleton_append]

/-- What comes of the first call is what the interface answers. -/
theorem Trace.meet_head (h : Trace i (x :: xs) i') : (i.meet x.call).1 = x := by
  obtain _ | @⟨_, _, _, c, _, _, hmeet, -⟩ := h
  obtain ⟨result, after, hmeet'⟩ := exists_meet i c
  cases hmeet.symm.trans hmeet'
  rw [hmeet]

theorem next_of_meet {result : Except Win32Error Nat} (h : (i.meet c).1 = ⟨c, result⟩) :
    match result with
    | .error e => i.next c = .fails e
    | .ok _ => ∃ state, i.next c = .succeeds state := by
  cases hnext : i.next c with
  | fails e =>
    rw [meet_of_fails hnext] at h
    cases h
    rfl
  | succeeds state =>
    simp only [Interface.meet, hnext] at h
    split at h <;> cases h <;> exact ⟨state, rfl⟩

/-- A call gives a handle of its own, the next number. -/
theorem handle?_meet (i : Interface) (c : ApiCall) :
    ((i.meet c).1.handle? = none ∧ (i.meet c).2.handles = i.handles) ∨
      ((i.meet c).1.handle? = some (i.handles + 1) ∧ (i.meet c).2.handles = i.handles + 1) := by
  cases hnext : i.next c with
  | fails e =>
    rw [meet_of_fails hnext]
    exact Or.inl ⟨by simp [Exchange.handle?, Except.toOption], rfl⟩
  | succeeds state =>
    cases hclosing : c.closing? with
    | none =>
      rw [meet_of_succeeds hnext hclosing]
      exact Or.inl ⟨by simp [Exchange.handle?, hclosing], rfl⟩
    | some closing =>
      rw [meet_of_opens hnext (by rw [hclosing]; rfl)]
      exact Or.inr ⟨by simp [Exchange.handle?, hclosing, Except.toOption], rfl⟩

/-- Handles are numbered in the order in which they are opened. -/
theorem Trace.opened_eq (h : Trace i xs i') :
    opened xs = List.range' (i.handles + 1) (opened xs).length := by
  induction h with
  | nil => rfl
  | @cons i i' i'' c x xs hmeet _ ih =>
    have hhandle := handle?_meet i c
    rw [hmeet] at hhandle
    rcases hhandle with ⟨hnone, hhandles⟩ | ⟨hsome, hhandles⟩
    · rw [opened, List.filterMap_cons_none hnone]
      rwa [hhandles] at ih
    · rw [opened, List.filterMap_cons_some hsome, List.length_cons, List.range'_succ]
      rw [hhandles] at ih
      exact congrArg _ ih

theorem Trace.nodup_opened (h : Trace i xs i') : (opened xs).Nodup := by
  rw [h.opened_eq]
  exact List.nodup_range'

theorem withoutClosings_cons (h : x.call.closes? = none) :
    withoutClosings (x :: xs) = x :: withoutClosings xs :=
  List.filter_cons_of_pos (by rw [Exchange.closes?, h]; rfl)

theorem withoutClosings_concat {handle : Nat} (h : x.call.closes? = some handle) :
    withoutClosings (xs ++ [x]) = withoutClosings xs := by
  simp [withoutClosings, Exchange.closes?, h]

/-- What says nothing of a closing says as much without the closings. -/
theorem filterMap_withoutClosings {β : Type} {f : ApiCall → Option β}
    (hclosing : ∀ c, c.closes?.isSome → f c = none) (xs : List Exchange) :
    (withoutClosings xs).filterMap (f ·.call) = xs.filterMap (f ·.call) := by
  induction xs with
  | nil => rfl
  | cons x xs ih =>
    cases hx : x.closes? with
    | none => rw [withoutClosings_cons hx, List.filterMap_cons, List.filterMap_cons, ih]
    | some handle =>
      have hx' : x.call.closes? = some handle := hx
      have hnone : f x.call = none := hclosing x.call (by simp [hx'])
      rw [withoutClosings, List.filter_cons_of_neg (by simp [hx]), List.filterMap_cons, hnone]
      exact ih

/-- Nothing is closed before something was opened. -/
theorem Bracketed.head_eq (h : Bracketed held xs) (hcourse : withoutClosings xs = x :: ys) :
    ∃ rest, xs = x :: rest := by
  cases h with
  | nil => cases hcourse
  | plain _ _ hcloses _ =>
    rw [withoutClosings_cons hcloses] at hcourse
    cases hcourse
    exact ⟨_, rfl⟩
  | bracket _ _ hclosing _ _ _ =>
    rw [List.cons_append, withoutClosings_cons (ApiCall.closes?_closing hclosing 0).1] at hcourse
    cases hcourse
    exact ⟨_, rfl⟩

theorem Bracketed.append (h : Bracketed held xs) (h' : Bracketed held ys) :
    Bracketed held (xs ++ ys) := by
  induction h with
  | nil => exact h'
  | plain huses hopens hcloses _ ih => exact .plain huses hopens hcloses (ih h')
  | bracket huses hopens hclosing hcloses hbody _ _ ih =>
    rw [List.append_assoc, List.cons_append]
    exact .bracket huses hopens hclosing hcloses hbody (ih h')

/-- What is closed is what was opened. -/
theorem Bracketed.closed_perm (h : Bracketed held xs) : (closed xs).Perm (opened xs) := by
  induction h with
  | nil => exact .nil
  | plain huses hopens hcloses _ ih =>
    rwa [closed, opened, List.filterMap_cons_none hcloses, List.filterMap_cons_none hopens]
  | @bracket held x x' handle closing body xs huses hopens hclosing hcloses _ _ ihbody ih =>
    obtain ⟨hx, hx', hcloses'⟩ := ApiCall.closes?_closing hclosing handle
    have hopened : opened (x :: body ++ x' :: xs) = handle :: opened body ++ opened xs := by
      have hnone : x'.handle? = none := by rw [Exchange.handle?, hcloses, hx']; rfl
      simp [opened, hopens, hnone]
    have hclosed : closed (x :: body ++ x' :: xs) = closed body ++ handle :: closed xs := by
      have hsome : x'.closes? = some handle := by rw [Exchange.closes?, hcloses, hcloses']
      have hnone : x.closes? = none := hx
      simp [closed, hsome, hnone]
    rw [hopened, hclosed]
    exact List.perm_middle.trans ((ihbody.append ih).cons handle)

end Traces

/-! ## Uses -/

section Uses

open Session

variable {ε α β γ : Type} {held : List Nat} {course : Course α} {i i' : Interface}
  {xs ys : List Exchange}

/-- Goes on with what came of a course. -/
def Course.bind : Course α → (α → Course β) → Course β
  | .done a, f => f a
  | .call c next, f => .call c fun n => (next n).bind f

theorem Follows.bind {a : α} {f : α → Course β} {outcome : Except Failure β}
    (h : Follows course xs (.ok a)) (h' : Follows (f a) ys outcome) :
    Follows (course.bind f) (xs ++ ys) outcome := by
  generalize hok : (Except.ok a : Except Failure α) = first at h
  induction h with
  | done => cases hok; exact h'
  | failed => cases hok
  | went _ ih => exact .went (ih hok)

theorem Follows.bind_error {failure : Failure} (f : α → Course β)
    (h : Follows course xs (.error failure)) : Follows (course.bind f) xs (.error failure) := by
  generalize herror : (Except.error failure : Except Failure α) = outcome at h
  induction h with
  | done => cases herror
  | failed => cases herror; exact .failed _ _ _
  | went _ ih => exact .went (ih herror)

/-- Wherever the handles are held, the use goes by the course, and answers with what
`answer` makes of the outcome. -/
def GoesBy (held : List Nat) (s : Session ε β) (course : Course α)
    (answer : Except Failure α → Except ε β) : Prop :=
  ∀ i, ∃ xs outcome, Trace i xs (s i).2 ∧ Follows course (withoutClosings xs) outcome ∧
    Bracketed held xs ∧ (s i).1 = answer outcome

theorem goesBy_pure {answer : Except Failure α → Except ε β} {a : α} {b : β}
    (h : answer (.ok a) = .ok b) : GoesBy held (pure b) (.done a) answer :=
  fun i => ⟨[], .ok a, .nil i i.log, .done a, .nil, h.symm⟩

/-- A call that opens nothing and closes nothing, and is the last. -/
theorem goesBy_call {c : ApiCall} {s : Session ε β} {f : Except Win32Error Nat → Except ε β}
    {g : Nat → α} {answer : Except Failure α → Except ε β} (hopens : c.closing? = none)
    (hcloses : c.closes? = none) (huses : ∀ h ∈ c.uses, h ∈ held)
    (hrun : ∀ i, s i = (f (call c i).1, (call c i).2))
    (hanswer : ∀ result, f result = answer ((result.mapError (Failure.mk c)).map g)) :
    GoesBy held s (.call c fun n => .done (g n)) answer := by
  intro i
  obtain ⟨result, i', hmeet⟩ := exists_meet i c
  have hhandle : (⟨c, result⟩ : Exchange).handle? = none := by simp [Exchange.handle?, hopens]
  rw [hrun, call_of_meet hopens hmeet]
  refine ⟨[⟨c, result⟩], (result.mapError (Failure.mk c)).map g, .cons hmeet (.nil i' i'.log), ?_,
    .plain huses hhandle hcloses .nil, hanswer result⟩
  rw [withoutClosings_cons hcloses]
  cases result with
  | error e => exact .failed c _ e
  | ok n => exact .went (.done (g n))

theorem holding_of_error {opening : Session ε Nat} {closing : Nat → ApiCall}
    {body : Nat → Session ε β} {e : ε} (h : opening i = (.error e, i')) :
    holding opening closing body i = (.error e, i') := by
  rw [holding, h]

theorem holding_of_ok {opening : Session ε Nat} {closing : Nat → ApiCall}
    {body : Nat → Session ε β} {handle : Nat} (h : opening i = (.ok handle, i')) :
    holding opening closing body i =
      ((body handle i').1, (call (closing handle) (body handle i').2).2) := by
  rw [holding, h]
  rfl

/-- Something is opened, used and closed. -/
theorem goesBy_holding {c : ApiCall} {closing : Nat → ApiCall} {next : Nat → Course α}
    {answer : Except Failure α → Except ε β} {wrap : Win32Error → ε}
    {body : Nat → Session ε β} (hclosing : c.closing? = some closing)
    (huses : ∀ h ∈ c.uses, h ∈ held) (hwrap : ∀ e, answer (.error ⟨c, e⟩) = .error (wrap e))
    (hbody : ∀ handle, GoesBy (handle :: held) (body handle) (next handle) answer) :
    GoesBy held (holding (mapError wrap (acquire c)) closing body) (.call c next) answer := by
  intro i
  obtain ⟨result, i', hmeet⟩ := exists_meet i c
  have hopens : c.closing?.isSome = true := by rw [hclosing]; rfl
  have hacquire : mapError wrap (acquire c) i = (result.mapError wrap, i') := by
    rw [mapError, acquire_of_meet hopens hmeet]
  obtain ⟨hcloses, -, -⟩ := ApiCall.closes?_closing hclosing 0
  cases result with
  | error e =>
    have hrun : holding (mapError wrap (acquire c)) closing body i = (.error (wrap e), i') :=
      holding_of_error hacquire
    have hhandle : (⟨c, .error e⟩ : Exchange).handle? = none := by
      simp [Exchange.handle?, hclosing, Except.toOption]
    rw [hrun]
    refine ⟨[⟨c, .error e⟩], .error ⟨c, e⟩, .cons hmeet (.nil i' i'.log), ?_,
      .plain huses hhandle hcloses .nil, (hwrap e).symm⟩
    rw [withoutClosings_cons hcloses]
    exact .failed c next e
  | ok handle =>
    obtain ⟨xs, outcome, htrace, hfollows, hbracketed, hanswer⟩ := hbody handle i'
    obtain ⟨result', i'', hmeet'⟩ := exists_meet (body handle i').2 (closing handle)
    obtain ⟨-, hopens', hcloses'⟩ := ApiCall.closes?_closing hclosing handle
    have hrun : holding (mapError wrap (acquire c)) closing body i =
        ((body handle i').1, i'') := by
      rw [holding_of_ok hacquire, call_of_meet hopens' hmeet']
    have hhandle : (⟨c, .ok handle⟩ : Exchange).handle? = some handle := by
      simp [Exchange.handle?, hclosing, Except.toOption]
    rw [hrun]
    refine ⟨⟨c, .ok handle⟩ :: xs ++ [⟨closing handle, result'⟩], outcome, ?_, ?_,
      .bracket huses hhandle hclosing rfl hbracketed .nil, hanswer⟩
    · rw [List.cons_append]
      exact .cons hmeet (htrace.append (.cons hmeet' (.nil i'' i''.log)))
    · rw [List.cons_append, withoutClosings_cons hcloses, withoutClosings_concat hcloses']
      exact .went hfollows

theorem goesBy_bind {s : Session ε α} {f : α → Session ε β} {next : α → Course γ}
    {wrap : Failure → ε} {answer : Except Failure γ → Except ε β}
    (hwrap : ∀ failure, answer (.error failure) = .error (wrap failure))
    (h : GoesBy held s course (Except.mapError wrap))
    (hnext : ∀ a, GoesBy held (f a) (next a) answer) :
    GoesBy held (s >>= f) (course.bind next) answer := by
  intro i
  obtain ⟨xs, outcome, htrace, hfollows, hbracketed, hanswer⟩ := h i
  cases outcome with
  | error failure =>
    rw [bind_of_error (Prod.ext hanswer rfl : s i = (.error (wrap failure), (s i).2))]
    exact ⟨xs, .error failure, htrace, hfollows.bind_error next, hbracketed, (hwrap failure).symm⟩
  | ok a =>
    obtain ⟨ys, outcome, htrace', hfollows', hbracketed', hanswer'⟩ := hnext a (s i).2
    rw [bind_of_ok (Prod.ext hanswer rfl : s i = (.ok a, (s i).2))]
    refine ⟨xs ++ ys, outcome, htrace.append htrace', ?_, hbracketed.append hbracketed', hanswer'⟩
    rw [withoutClosings, List.filter_append]
    exact hfollows.bind hfollows'

/-- What is learned without the interface makes no difference to a course. -/
theorem goesBy_bind_of_ok {s : Session ε α} {f : α → Session ε β} {a : α} {next : Course γ}
    {answer : Except Failure γ → Except ε β} (hs : ∀ i, s i = (.ok a, i))
    (h : GoesBy held (f a) next answer) : GoesBy held (s >>= f) next answer := by
  intro i
  rw [bind_of_ok (hs i)]
  exact h i

/-- What is logged makes no difference to a course. -/
theorem goesBy_note_bind (e : Entry) {s : Session ε β} {answer : Except Failure α → Except ε β}
    (h : GoesBy held s course answer) : GoesBy held (note e >>= fun _ => s) course answer := by
  intro i
  obtain ⟨xs, outcome, htrace, hrest⟩ := h { i with log := i.log ++ [e] }
  exact ⟨xs, outcome, Trace.append (.nil i (i.log ++ [e])) htrace, hrest⟩

/-- A call that opens nothing and closes nothing, and what is done with its answer. -/
theorem goesBy_call_bind {c : ApiCall} {f : Nat → Session ε β} {next : Nat → Course γ}
    {wrap : Failure → ε} {wrapCall : Win32Error → ε} {answer : Except Failure γ → Except ε β}
    (hopens : c.closing? = none) (hcloses : c.closes? = none) (huses : ∀ h ∈ c.uses, h ∈ held)
    (hwrap : ∀ failure, answer (.error failure) = .error (wrap failure))
    (hcall : ∀ e, wrap ⟨c, e⟩ = wrapCall e) (hnext : ∀ n, GoesBy held (f n) (next n) answer) :
    GoesBy held (mapError wrapCall (call c) >>= f) (.call c next) answer := by
  have hgoes : GoesBy held (mapError wrapCall (call c)) (.call c .done) (Except.mapError wrap) := by
    refine goesBy_call hopens hcloses huses (fun _ => rfl) fun result => ?_
    cases result with
    | error e => exact congrArg Except.error (hcall e).symm
    | ok n => rfl
  exact goesBy_bind hwrap hgoes hnext

/-- A use that needs no handle is conducted as its course says. -/
theorem GoesBy.conducted {s : Session ε β} {answer : Except Failure α → Except ε β}
    (h : GoesBy [] s course answer) (i : Interface) :
    ∃ outcome, Conducted course i outcome (s i).2 ∧ (s i).1 = answer outcome := by
  obtain ⟨xs, outcome, htrace, hfollows, hbracketed, hanswer⟩ := h i
  exact ⟨outcome, ⟨xs, htrace, htrace.calls_eq, hfollows, hbracketed, htrace.nodup_opened,
    hbracketed.closed_perm⟩, hanswer⟩

end Uses

/-! ## The one call that matters -/

/-- Of the calls that `f` picks, the use made just one, with this picked of it, unless the
manager could not be reached. -/
def Makes {β : Type} (f : ApiCall → Option β) (access : Nat) (b : β) (i i' : Interface) : Prop :=
  ∃ new, i'.calls = i.calls ++ new ∧ new.filterMap f =
    match i.next (.openManager access) with
    | .fails _ => []
    | .succeeds _ => [b]

/-- Of a last call that is not picked, nothing is. -/
theorem filterMap_last {α β : Type} {f : ApiCall → Option β} {c : ApiCall} {g : Nat → α}
    {xs : List Exchange} {outcome : Except Failure α}
    (h : Follows (.call c fun n => .done (g n)) xs outcome) (hlast : f c = none) :
    xs.filterMap (f ·.call) = [] := by
  cases h with
  | failed => simp only [List.filterMap_cons, List.filterMap_nil, hlast]
  | went h =>
    cases h
    simp only [List.filterMap_cons, List.filterMap_nil, hlast]

/-- A call that stands next in a course is made whenever the manager is reached. -/
theorem makes_of_conducted {α β : Type} {f : ApiCall → Option β} {access : Nat} {b : β}
    {c : Nat → ApiCall} {next : Nat → Nat → Course α} {outcome : Except Failure α}
    {i i' : Interface}
    (h : Conducted (.call (.openManager access) fun manager => .call (c manager) (next manager))
      i outcome i')
    (hclosing : ∀ c, c.closes?.isSome → f c = none) (hmanager : f (.openManager access) = none)
    (hcall : ∀ manager, f (c manager) = some b)
    (hnext : ∀ {manager handle xs outcome}, Follows (next manager handle) xs outcome →
      xs.filterMap (f ·.call) = []) : Makes f access b i i' := by
  obtain ⟨xs, htrace, hcalls, hfollows, hbracketed, -, -⟩ := h
  refine ⟨xs.map (·.call), hcalls, ?_⟩
  have hhead : ∀ x ys, withoutClosings xs = x :: ys → (i.meet x.call).1 = x := by
    intro x ys hcourse
    obtain ⟨rest, rfl⟩ := hbracketed.head_eq hcourse
    exact htrace.meet_head
  have hpicked : (xs.map (·.call)).filterMap f = (withoutClosings xs).filterMap (f ·.call) := by
    rw [filterMap_withoutClosings hclosing, List.filterMap_map]
    rfl
  rw [hpicked]
  generalize withoutClosings xs = course at hfollows hhead
  cases hfollows with
  | failed _ _ e =>
    rw [next_of_meet (hhead _ _ rfl)]
    simp only [List.filterMap_cons, List.filterMap_nil, hmanager]
  | @went _ _ manager rest _ hrest =>
    obtain ⟨state, hsucceeds⟩ := next_of_meet (hhead _ _ rfl)
    rw [hsucceeds]
    cases hrest with
    | failed => simp only [List.filterMap_cons, List.filterMap_nil, hmanager, hcall]
    | went hrest => simp only [List.filterMap_cons, hmanager, hcall, hnext hrest]

end ServiceSupervisor.Scm
