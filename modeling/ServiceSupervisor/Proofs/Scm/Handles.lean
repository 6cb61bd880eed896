import ServiceSupervisor.Proofs.Scm.Brackets
import ServiceSupervisor.Scm.Registration

/-!
  Proofs/Scm/Handles.lean --- the calls of queries, starts and verbs, and the handles they
  leave open.

  Each of them has a course of its own and ends at the first call that fails.  However it
  ends, every handle that it was given is closed again.
-/

set_option autoImplicit false

namespace ServiceSupervisor.Scm

open Session

/-! ## The courses -/

namespace Course

/-- A service is opened through the manager. -/
def service {α : Type} (name : String) (access : Nat) (next : Nat → Course α) : Course α :=
  .call (.openManager 0x1) fun manager => .call (.openService manager (seen name) access) next

/-- The manager is opened, and closed again. -/
def connect : Course Unit := .call (.openManager 0x1) fun _ => .done ()

/-- The service is opened to ask for its state. -/
def query (name : String) : Course Status :=
  service name 0x4 fun service => .call (.queryStatus service) fun state => .done (statusOf state)

/-- A start, of a watched service or of the supervisor's own. -/
def start (name : String) : Course Unit :=
  service name 0x10 fun service => .call (.startService service) fun _ => .done ()

/-- The service is opened to send it a stop. -/
def stop (name : String) : Course Unit :=
  service name 0x20 fun service => .call (.controlStop service) fun _ => .done ()

/-- A service that is not stopped is stopped before it is deleted. -/
def delete (name : String) : Course Unit :=
  service name 0xf01ff fun service => .call (.queryStatus service) fun state =>
    if state = 1 then .call (.deleteService service) fun _ => .done ()
    else .call (.controlStop service) fun _ => .call (.deleteService service) fun _ => .done ()

/-- A service is created before the key of its settings. -/
def install (name : OwnName) (command : String) : Course Unit :=
  .call (.openManager 0x3) fun manager =>
    .call (.createService manager (seen name.text) 0xf01ff (seen command)) fun _ =>
      .call (.createKey (seen (Registry.parametersKey name))) fun _ => .done ()

end Course

/-! ## What is said of a failure -/

/-- What a verb is about when it makes a call.  No course has a call that closes. -/
def VerbStep.about (verb : Verb) (name : OwnName) : ApiCall → VerbStep
  | .openManager _ => .openManager verb
  | .openService _ _ _ => .openService verb
  | .queryStatus _ => .queryStatus
  | .startService _ => .start
  | .controlStop _ => .stop
  | .deleteService _ => .delete
  | .createService _ _ _ _ => .create name.text
  | .createKey _ | .closeHandle _ | .closeKey _ => .createKey

/-- The error of a verb whose call failed. -/
def VerbError.ofFailure (verb : Verb) (name : OwnName) (f : Failure) : VerbError :=
  .step (.about verb name f.call) f.error

/-- What becomes of the outcome of a start: a service that runs already needs no start. -/
def startAnswer (name : String) : Except Failure Unit → Except StartError Unit
  | .ok () => .ok ()
  | .error f =>
    if f.call.function = .startService ∧ f.error.code = 1056 then .ok ()
    else .error (if f.error.code = 1060 then .notFound name else .host name f.error.text)

/-- The path of the settings as an installation writes it down. -/
def resolved (tree : Tree) (config : Option String) : Except FileError (Option String) :=
  config.elim (.ok none) fun path => (tree.realPath path).map some

/-- How a use of the interface goes, for each there is, from wherever the interface is. -/
structure ClosesAll (i : Interface) : Prop where
  connect : ∃ outcome, Conducted .connect i outcome (connect i).2 ∧
    (connect i).1 = outcome.mapError (·.error)
  query : ∀ name, ∃ outcome, Conducted (.query name) i outcome (query name i).2 ∧
    (query name i).1 = outcome.mapError fun f =>
      if f.error.code = 1060 then .notFound name else .host name f.error.text
  start : ∀ name, ∃ outcome, Conducted (.start name) i outcome (start name i).2 ∧
    (start name i).1 = startAnswer name outcome
  /-- an installation makes no call when the path of its settings leads nowhere -/
  unresolved : ∀ tree program name config e, resolved tree config = .error e →
    install tree program name config i = (.error (.config e), i)
  install : ∀ tree program name config config', resolved tree config = .ok config' →
    ∃ outcome, Conducted (.install name (command program name config')) i outcome
        (install tree program name config i).2 ∧
      (install tree program name config i).1 = outcome.mapError (.ofFailure .install name)
  delete : ∀ name : OwnName, ∃ outcome, Conducted (.delete name.text) i outcome (delete name i).2 ∧
    (delete name i).1 = outcome.mapError (.ofFailure .delete name)
  /-- starting and stopping take nothing but the name -/
  startOwn : ∀ tree program name config, ∃ outcome,
    Conducted (.start name.text) i outcome (perform tree program name config .start i).2 ∧
      (perform tree program name config .start i).1 = outcome.mapError (.ofFailure .start name)
  stopOwn : ∀ tree program name config, ∃ outcome,
    Conducted (.stop name.text) i outcome (perform tree program name config .stop i).2 ∧
      (perform tree program name config .stop i).1 = outcome.mapError (.ofFailure .stop name)

theorem resolveConfig_eq (tree : Tree) (config : Option String) (i : Interface) :
    resolveConfig tree config i = ((resolved tree config).mapError .config, i) := by
  cases config <;> rfl

/-! ## The uses -/

section Uses

variable {ε α β : Type} {held : List Nat} {verb : Verb}

theorem goesBy_service {wrapManager wrapService : Win32Error → ε} {name : String}
    {access : Nat} {body : Nat → Session ε β} {next : Nat → Course α}
    {answer : Except Failure α → Except ε β}
    (hmanager : ∀ e, answer (.error ⟨.openManager 0x1, e⟩) = .error (wrapManager e))
    (hservice : ∀ manager e,
      answer (.error ⟨.openService manager (seen name) access, e⟩) = .error (wrapService e))
    (hbody : ∀ manager service, GoesBy [service, manager] (body service) (next service) answer) :
    GoesBy [] (withManager wrapManager Access.connect fun manager =>
      withService wrapService manager name access body) (.service name access next) answer := by
  refine goesBy_holding rfl (by simp [ApiCall.uses]) hmanager fun manager => ?_
  exact goesBy_holding rfl (by simp [ApiCall.uses]) (hservice manager) fun service =>
    hbody manager service

theorem goesBy_connect : GoesBy [] connect .connect (Except.mapError (·.error)) :=
  goesBy_holding rfl (by simp [ApiCall.uses]) (fun _ => rfl) fun _ => goesBy_pure rfl

theorem goesBy_query (name : String) :
    GoesBy [] (query name) (.query name) (Except.mapError fun f => queryError name f.error) :=
  goesBy_service (fun _ => rfl) (fun _ _ => rfl) fun _ _ =>
    goesBy_call_bind rfl rfl (by simp [ApiCall.uses]) (fun _ => rfl) (fun _ => rfl)
      fun _ => goesBy_pure rfl

theorem goesBy_start (name : String) : GoesBy [] (start name) (.start name) (startAnswer name) := by
  refine goesBy_service (fun _ => rfl) (fun _ _ => rfl) fun manager service => ?_
  refine goesBy_call (f := acceptRunning name) rfl rfl (by simp [ApiCall.uses]) (fun _ => rfl)
    fun result => ?_
  cases result with
  | ok state => rfl
  | error e =>
    change acceptRunning name (.error e) = startAnswer name (.error ⟨.startService service, e⟩)
    by_cases he : e.code = 1056
    · exact (if_pos he).trans (if_pos ⟨rfl, he⟩).symm
    · exact (if_neg he).trans (if_neg fun h => he h.2).symm

/-- The last call of a verb, whose answer does not matter. -/
theorem goesBy_step {c : ApiCall} {step : VerbStep} {own : OwnName} (hopens : c.closing? = none)
    (hcloses : c.closes? = none) (huses : ∀ h ∈ c.uses, h ∈ held)
    (hstep : VerbStep.about verb own c = step) :
    GoesBy held (discard (inStep step (call c))) (.call c fun _ => .done ())
      (Except.mapError (.ofFailure verb own)) := by
  subst hstep
  refine goesBy_call
    (f := fun r => (r.mapError (VerbError.step (.about verb own c))).map fun _ => ())
    hopens hcloses huses (fun i => ?_) fun result => ?_
  · rcases hcalled : call c i with ⟨result, i'⟩
    have hs : inStep (VerbStep.about verb own c) (call c) i =
        (result.mapError (.step (.about verb own c)), i') := by rw [inStep, mapError, hcalled]
    simp only [discard, Functor.mapConst, Function.comp, ExceptT.map, ExceptT.mk, bind, StateT.bind]
    rw [hs]
    cases result <;> rfl
  · cases result <;> rfl

theorem goesBy_delete (own : OwnName) :
    GoesBy [] (delete own) (.delete own.text) (Except.mapError (.ofFailure .delete own)) := by
  refine goesBy_service (fun _ => rfl) (fun _ _ => rfl) fun manager service => ?_
  refine goesBy_call_bind rfl rfl (by simp [ApiCall.uses]) (fun _ => rfl) (fun _ => rfl)
    fun state => ?_
  have hdelete : GoesBy [service, manager]
      (discard (inStep .delete (call (.deleteService service))))
      (.call (.deleteService service) fun _ => .done ())
      (Except.mapError (.ofFailure .delete own)) :=
    goesBy_step rfl rfl (by simp [ApiCall.uses]) rfl
  have hstop : GoesBy [service, manager] (stopService service)
      (.call (.controlStop service) fun _ => .done ())
      (Except.mapError (.ofFailure .delete own)) :=
    goesBy_step rfl rfl (by simp [ApiCall.uses]) rfl
  by_cases hstate : state = stoppedState
  · have hone : state = 1 := hstate
    rw [if_neg (not_not_intro hstate), if_pos hone]
    exact hdelete
  · have hone : ¬state = 1 := hstate
    rw [if_pos hstate, if_neg hone]
    refine goesBy_note_bind _ (goesBy_bind ?_ hstop fun _ => hdelete)
    exact fun _ => rfl

theorem goesBy_startOwn (tree : Tree) (program : String) (own : OwnName) (config : Option String) :
    GoesBy [] (perform tree program own config .start) (.start own.text)
      (Except.mapError (.ofFailure .start own)) :=
  goesBy_service (fun _ => rfl) (fun _ _ => rfl) fun _ _ =>
    goesBy_step rfl rfl (by simp [ApiCall.uses]) rfl

theorem goesBy_stopOwn (tree : Tree) (program : String) (own : OwnName) (config : Option String) :
    GoesBy [] (perform tree program own config .stop) (.stop own.text)
      (Except.mapError (.ofFailure .stop own)) :=
  goesBy_service (fun _ => rfl) (fun _ _ => rfl) fun _ _ =>
    goesBy_step rfl rfl (by simp [ApiCall.uses]) rfl

theorem goesBy_install (tree : Tree) (program : String) (own : OwnName) {config : Option String}
    {config' : Option String} (hconfig : resolved tree config = .ok config') :
    GoesBy [] (install tree program own config) (.install own (command program own config'))
      (Except.mapError (.ofFailure .install own)) := by
  have hresolve : ∀ i, resolveConfig tree config i = (.ok config', i) := by
    intro i
    rw [resolveConfig_eq, hconfig]
    rfl
  refine goesBy_bind_of_ok hresolve ?_
  refine goesBy_holding rfl (by simp [ApiCall.uses]) (fun _ => rfl) fun manager => ?_
  have hcreate : GoesBy [manager]
      (holding (inStep (.create own.text) (acquire (.createService manager (seen own.text)
          Access.all (seen (command program own config'))))) .closeHandle fun _ => pure ())
      (.call (.createService manager (seen own.text) 0xf01ff (seen (command program own config')))
        fun _ => .done ())
      (Except.mapError (.ofFailure .install own)) :=
    goesBy_holding rfl (by simp [ApiCall.uses]) (fun _ => rfl) fun _ => goesBy_pure rfl
  have hkey : GoesBy [manager]
      (holding (inStep .createKey (acquire (.createKey (seen (Registry.parametersKey own)))))
        .closeKey fun _ => pure ())
      (.call (.createKey (seen (Registry.parametersKey own))) fun _ => .done ())
      (Except.mapError (.ofFailure .install own)) :=
    goesBy_holding rfl (by simp [ApiCall.uses]) (fun _ => rfl) fun _ => goesBy_pure rfl
  refine goesBy_bind ?_ hcreate fun _ => goesBy_note_bind _ hkey
  exact fun _ => rfl

end Uses

/-- Every query, start and verb makes the calls of its course up to the first that fails,
and closes whatever it opened, however it ends. -/
theorem closesAll_use (i : Interface) : ClosesAll i where
  connect := goesBy_connect.conducted i
  query name := (goesBy_query name).conducted i
  start name := (goesBy_start name).conducted i
  unresolved := by
    intro tree program name config e h
    have hr : resolveConfig tree config i = (.error (.config e), i) := by
      rw [resolveConfig_eq, h]
      rfl
    exact bind_of_error hr
  install tree program name config config' h := (goesBy_install tree program name h).conducted i
  delete name := (goesBy_delete name).conducted i
  startOwn tree program name config := (goesBy_startOwn tree program name config).conducted i
  stopOwn tree program name config := (goesBy_stopOwn tree program name config).conducted i

end ServiceSupervisor.Scm
