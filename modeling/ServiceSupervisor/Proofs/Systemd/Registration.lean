import ServiceSupervisor.Proofs.Systemd.Conversation
import ServiceSupervisor.Proofs.Systemd.UnitFile
import ServiceSupervisor.Systemd.Registration

/-!
  Proofs/Systemd/Registration.lean --- the steps of an installation and of a deletion.

  Each verb has a list of steps and goes along it up to the first that fails.  The files
  change in one step of each only, and `systemctl` is not run for a unit that is not whole,
  nor is a unit removed that may still be in use.
-/

set_option autoImplicit false

namespace ServiceSupervisor.Systemd

open ServiceSupervisor.Tree (Kept SameFolders)
open Systemctl (Exchanged)

/-! ## Steps -/

/-- A step of a verb. -/
inductive Step where
  /-- resolves the path of the settings -/
  | resolve (config : Option String)
  | write (u : UnitSpec)
  /-- asks for the status of a unit, and is told this -/
  | ask (unit : String) (told : Except QueryError Status)
  /-- runs `systemctl` until it ends -/
  | call (args : List String)
  | remove (unit : String)

/-- Whether the step is about a file in the folder of the units. -/
def Step.onFolder : Step → Bool
  | .write _ | .remove _ => true
  | _ => false

/-- What `systemctl` is run with in a step, if it is. -/
def Step.args? (scope : Scope) : Step → Option (List String)
  | .ask unit _ => some (showCall scope unit)
  | .call args => some (addressed scope args)
  | _ => none

/-- What comes of a step: how it goes, and the files and the program after it. -/
inductive Step.Ends (env : Environment) :
    Step → Tree → Systemctl → Except VerbError Unit → Tree → Systemctl → Prop
  | resolved {config found : Option String} {t : Tree} {s : Systemctl}
      (h : config.mapM t.realPath = .ok found) : Ends env (.resolve config) t s (.ok ()) t s
  | unresolved {config : Option String} {e : FileError} {t : Tree} {s : Systemctl}
      (h : config.mapM t.realPath = .error e) :
      Ends env (.resolve config) t s (.error (.config e)) t s
  /-- a user without a folder for settings has none for units -/
  | nowhere {step : Step} {t : Tree} {s : Systemctl} (hstep : step.onFolder = true)
      (h : unitFolder? env = none) : Ends env step t s (.error .noConfigFolder) t s
  | written {u : UnitSpec} {folder path : String} {t t' : Tree} {s : Systemctl}
      (hfolder : unitFolder? env = some folder) (h : u.write folder t = (.ok path, t')) :
      Ends env (.write u) t s (.ok ()) t' s
  | unwritten {u : UnitSpec} {folder : String} {e : UnitError} {t t' : Tree} {s : Systemctl}
      (hfolder : unitFolder? env = some folder) (h : u.write folder t = (.error e, t')) :
      Ends env (.write u) t s (.error (.file e)) t' s
  | told {unit : String} {shown : Outcome} {status : Status} {t : Tree} {s s' : Systemctl}
      (h : Exchanged (some defaultLimit) s [⟨showCall env.scope unit, shown⟩] s')
      (hstatus : statusFrom defaultLimit unit shown = .ok status) :
      Ends env (.ask unit (.ok status)) t s (.ok ()) t s'
  | untold {unit : String} {shown : Outcome} {e : QueryError} {t : Tree} {s s' : Systemctl}
      (h : Exchanged (some defaultLimit) s [⟨showCall env.scope unit, shown⟩] s')
      (hstatus : statusFrom defaultLimit unit shown = .error e) :
      Ends env (.ask unit (.error e)) t s (.error (.query unit e)) t s'
  | obeyed {args : List String} {out err : List UInt8} {t : Tree} {s s' : Systemctl}
      (h : Exchanged none s [⟨addressed env.scope args, .ended true out err⟩] s') :
      Ends env (.call args) t s (.ok ()) t s'
  | refused {args : List String} {out err : List UInt8} {t : Tree} {s s' : Systemctl}
      (h : Exchanged none s [⟨addressed env.scope args, .ended false out err⟩] s') :
      Ends env (.call args) t s (.error (.refused args (complaint err))) t s'
  | notExecuted {args : List String} {e : FileError} {t : Tree} {s s' : Systemctl}
      (h : Exchanged none s [⟨addressed env.scope args, .notStarted e⟩] s') :
      Ends env (.call args) t s (.error (.notExecuted args e)) t s'
  | removed {unit folder : String} {t t' : Tree} {s : Systemctl}
      (hfolder : unitFolder? env = some folder)
      (h : t.removeFile (Path.join folder unit) = .ok t') :
      Ends env (.remove unit) t s (.ok ()) t' s
  | unremoved {unit folder : String} {e : FileError} {t : Tree} {s : Systemctl}
      (hfolder : unitFolder? env = some folder)
      (h : t.removeFile (Path.join folder unit) = .error e) :
      Ends env (.remove unit) t s (.error (.remove (Path.join folder unit) e)) t s

/-- A step that was taken, and how it went. -/
structure Taken where
  step : Step
  result : Except VerbError Unit

/-- A step that was taken and went well. -/
def Taken.well (step : Step) : Taken := ⟨step, .ok ()⟩

/-- The steps are taken one after the other, up to the first that fails. -/
inductive Runs (env : Environment) :
    List Step → Tree → Systemctl → List Taken → Except VerbError Unit → Tree → Systemctl → Prop
  | done {t : Tree} {s : Systemctl} : Runs env [] t s [] (.ok ()) t s
  | stops {step : Step} {rest : List Step} {e : VerbError} {t t' : Tree} {s s' : Systemctl}
      (h : step.Ends env t s (.error e) t' s') :
      Runs env (step :: rest) t s [⟨step, .error e⟩] (.error e) t' s'
  | goes {step : Step} {rest : List Step} {taken : List Taken} {r : Except VerbError Unit}
      {t t₁ t' : Tree} {s s₁ s' : Systemctl} (h : step.Ends env t s (.ok ()) t₁ s₁)
      (hrest : Runs env rest t₁ s₁ taken r t' s') :
      Runs env (step :: rest) t s (.well step :: taken) r t' s'

variable {env : Environment} {name : OwnName} {step : Step} {steps rest : List Step}
  {taken : List Taken} {r : Except VerbError Unit} {t t₁ t' : Tree} {s s' : Systemctl}
  {m m' : Machine} {folder : String}

/-- Only what is about the folder of the units changes the files. -/
theorem Step.Ends.tree_eq (h : step.Ends env t s r t' s') (hstep : step.onFolder = false) :
    t' = t := by
  cases h <;> first | rfl | cases hstep

theorem Step.Ends.systemctl_eq (h : step.Ends env t s r t' s')
    (hstep : step.args? env.scope = none) : s' = s := by
  cases h <;> first | rfl | cases hstep

/-- A step that runs `systemctl` does so once. -/
theorem Step.Ends.args_eq (h : step.Ends env t s r t' s') :
    s'.attempts.map Attempt.args =
      s.attempts.map Attempt.args ++ (step.args? env.scope).toList := by
  have hnone : s.attempts.map Attempt.args = s.attempts.map Attempt.args ++ [] :=
    (List.append_nil _).symm
  cases h with
  | told h _ => simp [h.attempts_eq, Exchange.attempt, Step.args?]
  | untold h _ => simp [h.attempts_eq, Exchange.attempt, Step.args?]
  | obeyed h => simp [h.attempts_eq, Exchange.attempt, Step.args?]
  | refused h => simp [h.attempts_eq, Exchange.attempt, Step.args?]
  | notExecuted h => simp [h.attempts_eq, Exchange.attempt, Step.args?]
  | nowhere hstep _ =>
    cases step <;> first | exact hnone | cases hstep
  | _ => exact hnone

namespace Runs

theorem tree_eq (h : Runs env steps t s taken r t' s') (hsteps : ∀ x ∈ steps, x.onFolder = false) :
    t' = t := by
  induction h with
  | done => rfl
  | stops h => exact h.tree_eq (hsteps _ List.mem_cons_self)
  | goes h _ ih =>
    rw [ih fun x hx => hsteps x (List.mem_cons_of_mem _ hx),
      h.tree_eq (hsteps _ List.mem_cons_self)]

/-- What is run is what the steps that were taken call for. -/
theorem args_eq (h : Runs env steps t s taken r t' s') :
    s'.attempts.map Attempt.args = s.attempts.map Attempt.args ++
      taken.filterMap fun x => x.step.args? env.scope := by
  induction h with
  | done => simp
  | @stops step _ _ _ _ _ _ h =>
    rw [h.args_eq]
    cases hstep : step.args? env.scope <;> simp [hstep]
  | @goes step _ _ _ _ _ _ _ _ _ h _ ih =>
    rw [ih, h.args_eq]
    cases hstep : step.args? env.scope <;> simp [hstep, Taken.well]

/-- No other steps are taken. -/
theorem step_mem (h : Runs env steps t s taken r t' s') : ∀ x ∈ taken, x.step ∈ steps := by
  induction h with
  | done => simp
  | stops _ => simp
  | goes _ _ ih =>
    intro x hx
    rcases List.mem_cons.mp hx with rfl | hx
    · exact List.mem_cons_self
    · exact List.mem_cons_of_mem _ (ih x hx)

/-- What ends well has taken all its steps, and went well up to any of them. -/
theorem exists_of_ok (h : Runs env (steps ++ rest) t s taken (.ok ()) t' s') :
    ∃ t₁ s₁ first last, Runs env steps t s first (.ok ()) t₁ s₁ ∧
      Runs env rest t₁ s₁ last (.ok ()) t' s' := by
  induction steps generalizing t s taken with
  | nil => exact ⟨t, s, [], taken, .done, h⟩
  | cons step steps ih =>
    cases h with
    | goes hstep hrest =>
      obtain ⟨t₁, s₁, first, last, hfirst, hlast⟩ := ih hrest
      exact ⟨t₁, s₁, _, last, .goes hstep hfirst, hlast⟩

/-- If there is but one step that changes the files, all before it has gone well when they
are changed. -/
theorem of_changed {unit : String} (hsteps : ∀ x ∈ steps, x.onFolder = false)
    (h : Runs env (steps ++ .remove unit :: rest) t s taken r t' s') (hchanged : t' ≠ t) :
    ∃ last, taken = (steps ++ [Step.remove unit]).map .well ++ last := by
  induction steps generalizing t s taken with
  | nil =>
    cases h with
    | stops hstep =>
      -- a failed removal has changed nothing
      refine absurd ?_ hchanged
      cases hstep <;> rfl
    | goes _ _ => exact ⟨_, rfl⟩
  | cons step steps ih =>
    have hquiet := hsteps step List.mem_cons_self
    cases h with
    | stops hstep => exact absurd (hstep.tree_eq hquiet) hchanged
    | goes hstep hruns =>
      rw [← hstep.tree_eq hquiet] at hchanged
      obtain ⟨last, rfl⟩ := ih (fun x hx => hsteps x (List.mem_cons_of_mem _ hx)) hruns hchanged
      exact ⟨last, rfl⟩

end Runs

/-! ## The steps of the verbs -/

/-- The unit that an installation writes.  If the path of the settings leads nowhere, none
is written. -/
def unitFor (env : Environment) (program : String) (name : OwnName) (config : Option String)
    (t : Tree) : UnitSpec :=
  ⟨name, program, (config.mapM t.realPath).toOption.join, env.scope, false⟩

/-- The steps of an installation. -/
def installSteps (u : UnitSpec) (config : Option String) : List Step :=
  [.resolve config, .write u, .call ["daemon-reload"], .call ["enable", unitName u.name]]

/-- A unit is stopped unless it is told to be. -/
def stopSteps (unit : String) : Except QueryError Status → List Step
  | .ok .stopped => []
  | _ => [.call ["stop", unit]]

/-- The steps of a deletion up to the one that removes the file. -/
def unlinkSteps (unit : String) (told : Except QueryError Status) : List Step :=
  .ask unit told :: stopSteps unit told ++ [.call ["disable", unit]]

/-- The steps of a deletion, when that was told about the unit. -/
def deleteSteps (unit : String) (told : Except QueryError Status) : List Step :=
  unlinkSteps unit told ++ .remove unit :: [.call ["daemon-reload"]]

/-- How an installation went. -/
structure Installs (env : Environment) (program : String) (name : OwnName)
    (config : Option String) (m : Machine) (r : Except VerbError Unit) (m' : Machine) : Prop where
  course : ∃ taken, Runs env (installSteps (unitFor env program name config m.tree) config)
      m.tree m.systemctl taken r m'.tree m'.systemctl ∧
    m'.systemctl.attempts.map Attempt.args = m.systemctl.attempts.map Attempt.args ++
      taken.filterMap fun x => x.step.args? env.scope
  /-- Nothing is run unless the whole unit is in its place. -/
  whole : m'.systemctl.attempts ≠ m.systemctl.attempts → ∃ folder, unitFolder? env = some folder ∧
    m'.tree.at? (Path.join folder (unitName name)) =
      some (.file (Text.Utf8.encode (unitFor env program name config m.tree).text))

/-- How a deletion went. -/
structure Deletes (env : Environment) (name : OwnName) (m : Machine) (r : Except VerbError Unit)
    (m' : Machine) : Prop where
  course : ∃ told taken,
    Runs env (deleteSteps (unitName name) told) m.tree m.systemctl taken r m'.tree m'.systemctl ∧
    m'.systemctl.attempts.map Attempt.args = m.systemctl.attempts.map Attempt.args ++
      (taken.filterMap fun x => x.step.args? env.scope) ∧
    -- the files change only when all steps up to the removal, and it too, went well
    (m'.tree ≠ m.tree → (∃ status, told = .ok status) ∧ ∃ last,
      taken =
        (unlinkSteps (unitName name) told ++ [Step.remove (unitName name)]).map .well ++ last)

/-- What is left of a unit in the folder at `d` when it was installed and deleted. -/
structure Undone (name : OwnName) (folder : String) (d : Place) (t t' : Tree) : Prop where
  leads : t'.leads folder = .ok d
  unit : t'.get? (d ++ [unitName name]) = none
  temporary : t'.get? (d ++ [temporaryName name]) = none
  /-- every other file is as it was, wherever it is, -/
  files : ∀ p, p ≠ d ++ [unitName name] → p ≠ d ++ [temporaryName name] →
    ∀ content, t'.get? p = some (.file content) ↔ t.get? p = some (.file content)
  /-- and so is all else in the folder, unless that had to be made and its path steps up -/
  within : t.Direct folder → ∀ p, d <+: p → p ≠ d → p ≠ d ++ [unitName name] →
    p ≠ d ++ [temporaryName name] → t'.get? p = t.get? p

/-- Installing and deleting the service, in whatever state the machine is. -/
structure Stepwise (env : Environment) (name : OwnName) (m : Machine) : Prop where
  install : ∀ program config, Installs env program name config m
    (install env program name config m).1 (install env program name config m).2
  delete : Deletes env name m (delete env name m).1 (delete env name m).2
  /-- The one undoes the other, when both succeed and the files are left alone in between. -/
  undone : ∀ program config m₁ m₂ m₃, Systemd.install env program name config m = (.ok (), m₁) →
    m₂.tree = m₁.tree → Systemd.delete env name m₂ = (.ok (), m₃) →
    ∃ folder d, unitFolder? env = some folder ∧ Undone name folder d m.tree m₃.tree

/-! ## The verbs take their steps -/

/-- What came of a verb is what comes of the steps. -/
def Follows (env : Environment) (steps : List Step) (m : Machine)
    (out : Except VerbError Unit × Machine) : Prop :=
  ∃ taken, Runs env steps m.tree m.systemctl taken out.1 out.2.tree out.2.systemctl

section Follows

variable {α : Type} {d : Deed α} {f : α → Deed Unit} {out : Except VerbError Unit × Machine}

/-- What came of a computation that is a step. -/
def IsStep (env : Environment) (step : Step) (m : Machine) (out : Except VerbError α × Machine) :
    Prop :=
  step.Ends env m.tree m.systemctl (out.1.map fun _ => ()) out.2.tree out.2.systemctl

theorem follows_of_isStep (h : IsStep env step m out) : Follows env [step] m out := by
  obtain ⟨r, m'⟩ := out
  cases r with
  | error e => exact ⟨_, .stops h⟩
  | ok a => exact ⟨_, .goes h .done⟩

theorem follows_bind (h : IsStep env step m (d m))
    (hrest : ∀ a m₁, d m = (.ok a, m₁) → Follows env rest m₁ (f a m₁)) :
    Follows env (step :: rest) m ((d >>= f) m) := by
  rcases hd : d m with ⟨e | a, m₁⟩
  · rw [hd] at h
    rw [bind_of_error hd]
    exact ⟨_, .stops h⟩
  · rw [hd] at h
    rw [bind_of_ok hd]
    obtain ⟨taken, hruns⟩ := hrest a m₁ hd
    exact ⟨_, .goes h hruns⟩

/-- What changes neither files nor the program is no step. -/
theorem follows_bind_of_ok {a : α} (h : d m = (.ok a, m')) (htree : m'.tree = m.tree)
    (hsystemctl : m'.systemctl = m.systemctl) (hrest : Follows env steps m' (f a m')) :
    Follows env steps m ((d >>= f) m) := by
  rw [Follows, htree, hsystemctl] at hrest
  rwa [bind_of_ok h]

end Follows

theorem nul_not_mem_unitName (name : OwnName) : '\x00' ∉ (unitName name).toList := by
  simp [unitName, name.nul_not_mem_text]

theorem nul_not_mem_verb {verb : String} (hverb : '\x00' ∉ verb.toList) (name : OwnName) :
    ∀ a ∈ [verb, unitName name], '\x00' ∉ a.toList := by
  simpa using ⟨hverb, nul_not_mem_unitName name⟩

theorem isStep_call {args : List String} (hplain : ∀ a ∈ args, '\x00' ∉ a.toList) (m : Machine) :
    IsStep env (.call args) m (Deed.call env.scope args m) := by
  have hscope : ∀ a ∈ scopeArgs env.scope, '\x00' ∉ a.toList := by
    cases env.scope <;> decide
  have hall : Systemctl.arePlain (scopeArgs env.scope ++ args) = true :=
    Systemctl.arePlain_iff.mpr fun a ha => (List.mem_append.mp ha).elim (hscope a) (hplain a)
  have hrun := Systemctl.exchanged_run hall none m.systemctl
  have houtcome := congrArg Prod.fst (Systemctl.run_of_arePlain hall none m.systemctl)
  rw [Systemctl.next] at hrun houtcome
  dsimp only at houtcome
  rw [← houtcome] at hrun
  rw [IsStep, Deed.call]
  generalize m.systemctl.run none (scopeArgs env.scope ++ args) = ran at hrun houtcome ⊢
  rw [scopeArgs_append] at hrun
  obtain ⟨e | - | ⟨_ | _, out, err⟩, s₁⟩ := ran
  · exact .notExecuted hrun
  · -- without a limit there is no end of the time
    refine absurd houtcome ?_
    cases m.systemctl.behaviour m.systemctl.attempts.length <;> simp [Behaviour.outcome]
  · exact .refused hrun
  · exact .obeyed hrun

theorem isStep_status (env : Environment) (name : OwnName) (m : Machine) :
    ∃ told, IsStep env (.ask (unitName name) told) m (Deed.status env.scope (unitName name) m) ∧
      (Deed.status env.scope (unitName name) m).1 = told.mapError (.query (unitName name)) := by
  obtain ⟨shown, hquery, hstatus⟩ := exchanged_query (nul_not_mem_unitName name) env.scope
    defaultLimit m.systemctl
  refine ⟨statusFrom defaultLimit (unitName name) shown, ?_, ?_⟩
  · simp only [IsStep, Deed.status, hstatus]
    cases htold : statusFrom defaultLimit (unitName name) shown with
    | error e => exact .untold hquery htold
    | ok status => exact .told hquery htold
  · simp only [Deed.status, hstatus]

theorem isStep_write {path : String} (u : UnitSpec) (m : Machine)
    (hfolder : unitFolder? env = some path) :
    IsStep env (.write u) m (Deed.files .file (u.write path) m) := by
  simp only [IsStep, Deed.files]
  rcases hwrite : u.write path m.tree with ⟨e | written, t'⟩
  · exact .unwritten hfolder hwrite
  · exact .written hfolder hwrite

theorem isStep_remove {path unit : String} (m : Machine) (hfolder : unitFolder? env = some path) :
    IsStep env (.remove unit) m
      (Deed.files (.remove (Path.join path unit))
        (attempt none id (·.removeFile (Path.join path unit))) m) := by
  simp only [IsStep, Deed.files, attempt]
  cases hremove : m.tree.removeFile (Path.join path unit) with
  | error e => exact .unremoved hfolder hremove
  | ok t' => exact .removed hfolder hremove

/-- A step in the folder of the units, which may be one that there is not. -/
theorem follows_folder {α : Type} {d : String → Deed α} {f : String → α → Deed Unit}
    (hstep : step.onFolder = true)
    (h : ∀ path, unitFolder? env = some path → IsStep env step m (d path m))
    (hrest : ∀ path a m₁, d path m = (.ok a, m₁) → Follows env rest m₁ (f path a m₁)) :
    Follows env (step :: rest) m
      ((Deed.folder env >>= fun path => d path >>= fun a => f path a) m) := by
  cases hfolder : unitFolder? env with
  | none =>
    have hfails : Deed.folder env m = (.error .noConfigFolder, m) := by
      rw [Deed.folder, hfolder]
      rfl
    rw [bind_of_error hfails]
    exact ⟨_, .stops (.nowhere hstep hfolder)⟩
  | some path =>
    have hgoes : Deed.folder env m = (.ok path, m) := by
      rw [Deed.folder, hfolder]
      rfl
    refine follows_bind_of_ok hgoes rfl rfl ?_
    exact follows_bind (h path hfolder) (hrest path)

theorem resolveConfig_eq (config : Option String) (m : Machine) :
    resolveConfig config m = ((config.mapM m.tree.realPath).mapError .config, m) := by
  cases config with
  | none => rfl
  | some path =>
    simp only [resolveConfig, Option.mapM_some]
    cases m.tree.realPath path <;> rfl

theorem isStep_resolveConfig (config : Option String) (m : Machine) :
    IsStep env (.resolve config) m (resolveConfig config m) := by
  simp only [IsStep, resolveConfig_eq]
  cases h : config.mapM m.tree.realPath with
  | error e => exact .unresolved h
  | ok found => exact .resolved h

theorem follows_install (env : Environment) (program : String) (name : OwnName)
    (config : Option String) (m : Machine) :
    Follows env (installSteps (unitFor env program name config m.tree) config) m
      (install env program name config m) := by
  refine follows_bind (isStep_resolveConfig config m) fun found m₁ hresolved => ?_
  -- the unit is the one for the settings as they were found
  rw [resolveConfig_eq] at hresolved
  have hunit :
      unitFor env program name config m.tree = ⟨name, program, found, env.scope, false⟩ := by
    cases hfound : config.mapM m.tree.realPath with
    | error e =>
      rw [hfound] at hresolved
      cases hresolved
    | ok found' =>
      rw [hfound] at hresolved
      cases hresolved
      rw [unitFor, hfound]
      rfl
  rw [hunit]
  refine follows_folder rfl (fun path hfolder => isStep_write _ m₁ hfolder) fun path a m₂ _ => ?_
  refine follows_bind_of_ok rfl rfl rfl ?_
  refine follows_bind (isStep_call (by decide) _) fun _ m₃ _ => ?_
  exact follows_of_isStep (isStep_call (nul_not_mem_verb (by decide) name) _)

theorem isStep_stopFirst {status : Status} (name : OwnName) (m : Machine)
    (h : status ≠ .stopped) :
    IsStep env (.call ["stop", unitName name]) m
      (stopFirst env.scope (unitName name) status m) := by
  rw [stopFirst, if_pos h]
  exact isStep_call (nul_not_mem_verb (by decide) name) _

theorem follows_delete (env : Environment) (name : OwnName) (m : Machine) :
    ∃ told, Follows env (deleteSteps (unitName name) told) m (delete env name m) := by
  obtain ⟨told, hask, hanswer⟩ := isStep_status env name
    { m with log := m.log ++ [connectNote env.scope] }
  refine ⟨told, follows_bind_of_ok rfl rfl rfl ?_⟩
  refine follows_bind hask fun status m₁ hstatus => ?_
  -- what was told is what decides whether the unit is stopped
  have htold : told = .ok status := by
    rw [hstatus] at hanswer
    cases told with
    | error e => cases hanswer
    | ok status' =>
      cases hanswer
      rfl
  have hrest : ∀ m₂, Follows env
      [.call ["disable", unitName name], .remove (unitName name), .call ["daemon-reload"]] m₂
      ((Deed.call env.scope ["disable", unitName name] >>= fun _ =>
        Deed.folder env >>= fun folder =>
        Deed.files (.remove (Path.join folder (unitName name)))
          (attempt none id (·.removeFile (Path.join folder (unitName name)))) >>= fun _ =>
        Deed.call env.scope ["daemon-reload"]) m₂) := by
    intro m₂
    refine follows_bind (isStep_call (nul_not_mem_verb (by decide) name) m₂) fun _ m₃ _ => ?_
    refine follows_folder rfl (fun path hfolder => isStep_remove m₃ hfolder) fun path _ m₄ _ => ?_
    exact follows_of_isStep (isStep_call (by decide) m₄)
  by_cases hstopped : status = .stopped
  · subst hstopped htold
    exact follows_bind_of_ok rfl rfl rfl (hrest m₁)
  · have hsteps : stopSteps (unitName name) told = [.call ["stop", unitName name]] := by
      subst htold
      cases status <;> first | rfl | exact absurd rfl hstopped
    rw [hsteps]
    exact follows_bind (isStep_stopFirst name m₁ hstopped) fun _ m₂ _ => hrest m₂

/-! ## What the steps come to -/

theorem onFolder_unlinkSteps (unit : String) (told : Except QueryError Status) :
    ∀ x ∈ unlinkSteps unit told, x.onFolder = false := by
  rcases told with e | ⟨_ | _⟩ <;> simp [unlinkSteps, stopSteps, Step.onFolder]

/-- Neither resolving a path nor writing a unit runs anything, and once the unit is written no
step changes the files. -/
theorem Runs.stays_or_writes {u : UnitSpec} {config : Option String}
    (h : Runs env (installSteps u config) t s taken r t' s') :
    (s' = s ∧ ∃ e, r = .error e) ∨
      ∃ folder path, unitFolder? env = some folder ∧ u.write folder t = (.ok path, t') := by
  cases h with
  | stops hresolve => exact Or.inl ⟨hresolve.systemctl_eq rfl, _, rfl⟩
  | goes hresolve h =>
    have hsystemctl := hresolve.systemctl_eq rfl
    have htree := hresolve.tree_eq rfl
    subst hsystemctl htree
    cases h with
    | stops hwrite => exact Or.inl ⟨hwrite.systemctl_eq rfl, _, rfl⟩
    | goes hwrite h =>
      rw [h.tree_eq (by simp [Step.onFolder])]
      cases hwrite with
      | written hfolder hwrite => exact Or.inr ⟨_, _, hfolder, hwrite⟩

theorem Runs.removes {unit : String} {told : Except QueryError Status}
    (h : Runs env (deleteSteps unit told) t s taken (.ok ()) t' s') :
    ∃ folder, unitFolder? env = some folder ∧ t.removeFile (Path.join folder unit) = .ok t' := by
  obtain ⟨t₁, s₁, first, last, hfirst, hlast⟩ := h.exists_of_ok
  have htree := hfirst.tree_eq (onFolder_unlinkSteps unit told)
  subst htree
  cases hlast with
  | goes hremove hlast =>
    rw [hlast.tree_eq (by simp [Step.onFolder])]
    cases hremove with
    | removed hfolder hremove => exact ⟨_, hfolder, hremove⟩

theorem installs_install (hrooted : m.tree.Rooted) (env : Environment) (program : String)
    (name : OwnName) (config : Option String) :
    Installs env program name config m (install env program name config m).1
      (install env program name config m).2 := by
  obtain ⟨taken, hruns⟩ := follows_install env program name config m
  refine ⟨⟨taken, hruns, hruns.args_eq⟩, fun hcalled => ?_⟩
  rcases hruns.stays_or_writes with ⟨hstays, -⟩ | ⟨folder, path, hfolder, hwrite⟩
  · exact absurd (congrArg _ hstays) hcalled
  · obtain ⟨t₁, -, hleft⟩ := left_writeOn hrooted (unitFor env program name config m.tree) .none
      folder
    rw [UnitSpec.write] at hwrite
    rw [hwrite] at hleft
    obtain ⟨rfl, hwhole, -⟩ := hleft.ok rfl
    exact ⟨folder, hfolder, hwhole⟩

theorem deletes_delete (env : Environment) (name : OwnName) (m : Machine) :
    Deletes env name m (delete env name m).1 (delete env name m).2 := by
  obtain ⟨told, taken, hruns⟩ := follows_delete env name m
  generalize delete env name m = out at hruns ⊢
  obtain ⟨r, m'⟩ := out
  refine ⟨told, taken, hruns, hruns.args_eq, fun hchanged => ⟨?_, ?_⟩⟩
  · -- nothing else is tried when the status is not told
    cases told with
    | ok status => exact ⟨status, rfl⟩
    | error e =>
      cases hruns with
      | stops hstep => exact absurd (hstep.tree_eq rfl) hchanged
      | goes hstep _ => cases hstep
  · exact hruns.of_changed (onFolder_unlinkSteps _ _) hchanged

/-- What is left when the file of a unit is removed that was just written. -/
theorem undone_of_removeFile {u : UnitSpec} {path : String} {t₂ t₃ : Tree}
    (hgrown : Tree.Grown t t₁ (t.start folder) (Path.steps folder))
    (hleft : Left u folder t₁ (.ok path) t₂)
    (hremove : t₂.removeFile (u.path folder) = .ok t₃) :
    ∃ d, Undone u.name folder d t t₃ := by
  obtain ⟨-, d, hplaced⟩ := hleft.exists_placed
  obtain ⟨p, content, hp, hcontent, rfl⟩ := Tree.removeFile_eq_ok_iff.mp hremove
  rw [hplaced.path] at hp
  cases hp
  have hfile : t₂.get? (u.place d) ≠ some .folder := by simp [hplaced.unit]
  have hsame : SameFolders t₁ (t₂.erase (u.place d)) :=
    hleft.sameFolders.trans (Tree.sameFolders_erase hfile)
  have hleads' : (t₂.erase (u.place d)).leads folder = .ok d :=
    (Tree.sameFolders_erase hfile).leads_iff.mpr hplaced.leads
  have hkept : ∀ p, p ≠ u.place d → p ≠ u.temporaryPlace d →
      Kept t (t₂.erase (u.place d)) (t.start folder) (Path.steps folder) p := by
    intro p hplace htemporary
    refine (hgrown.kept p).trans_same hsame ?_
    rw [Tree.get?_erase_of_ne hplace]
    refine hleft.get?_eq fun d' hd' => ?_
    have hd : Except.ok d = Except.ok d' := hleads'.symm.trans (hsame.leads_iff.mpr hd')
    cases hd
    exact ⟨htemporary, fun h => absurd h hplace⟩
  refine ⟨d, hleads', Tree.get?_erase_self (Tree.ne_nil_of_not_folder hfile), ?_,
    fun p hplace htemporary content => (hkept p hplace htemporary).file_iff, ?_⟩
  · exact (Tree.get?_erase_of_ne (place_ne_temporaryPlace u u d d).symm).trans hplaced.gone
  · intro hdirect p hp hne hplace htemporary
    exact (hkept p hplace htemporary).eq_of_within (hsame.here_eq.trans hgrown.here_eq)
      (fun q hq => (hsame.folder_iff q).mpr (hgrown.folder hq)) hdirect hleads' hp hne

theorem exists_undone {program : String} {config : Option String} {m₁ m₂ m₃ : Machine}
    (hrooted : m.tree.Rooted) (hinstall : install env program name config m = (.ok (), m₁))
    (hleft : m₂.tree = m₁.tree) (hdelete : delete env name m₂ = (.ok (), m₃)) :
    ∃ folder d, unitFolder? env = some folder ∧ Undone name folder d m.tree m₃.tree := by
  obtain ⟨taken, hinstalls⟩ := follows_install env program name config m
  obtain ⟨told, taken', hdeletes⟩ := follows_delete env name m₂
  rw [hinstall] at hinstalls
  rw [hdelete] at hdeletes
  obtain ⟨folder, hfolder, hremove⟩ := hdeletes.removes
  rcases hinstalls.stays_or_writes with ⟨-, e, he⟩ | ⟨folder', path, hfolder', hwrite⟩
  · cases he
  rw [hfolder] at hfolder'
  cases hfolder'
  obtain ⟨t₁, hgrown, hwritten⟩ := left_writeOn hrooted (unitFor env program name config m.tree)
    .none folder
  rw [UnitSpec.write] at hwrite
  rw [hwrite, ← hleft] at hwritten
  obtain ⟨d, hundone⟩ := undone_of_removeFile hgrown hwritten hremove
  exact ⟨folder, d, hfolder, hundone⟩

/-- Whatever the files are and whatever `systemctl` does, the verbs go along their steps, and
one undoes the other. -/
theorem stepwise_machine (hrooted : m.tree.Rooted) (env : Environment) (name : OwnName) :
    Stepwise env name m where
  install program config := installs_install hrooted env program name config
  delete := deletes_delete env name m
  undone _ _ _ _ _ hinstall hleft hdelete := exists_undone hrooted hinstall hleft hdelete

/-- A home with settings in it, and `systemctl` that always ends well and shows all units
active. -/
def busyHome : Machine :=
  ⟨⟨[(["home"], .folder), (["home", "keep.toml"], .file [])], ["home"], []⟩,
    ⟨fun _ => .runs (.ofSeconds 0) true (Text.Utf8.encode "ActiveState=active\n") [], []⟩, []⟩

/-- A user with that home. -/
def homeUser : Environment := .ofAccount 1000 [("HOME", "/home")] none

/-- There a service is installed, and stopped before it is deleted again. -/
theorem stepwise_busyHome :
    let name : OwnName := ⟨"a.b", by decide, by decide⟩
    let installed := install homeUser "/bin/keep" name (some "keep.toml") busyHome
    let deleted := delete homeUser name installed.2
    busyHome.tree.Rooted ∧ Stepwise homeUser name busyHome ∧ installed.1 = .ok () ∧
      deleted.1 = .ok () ∧ deleted.2.systemctl.attempts.map Attempt.args =
        [["--user", "daemon-reload"], ["--user", "enable", "a.b.service"],
          ["--user", "show", "-p", "LoadState", "-p", "ActiveState", "--", "a.b.service"],
          ["--user", "stop", "a.b.service"],
          ["--user", "disable", "a.b.service"], ["--user", "daemon-reload"]] := by
  have hrooted : busyHome.tree.Rooted := Tree.rooted_of_items (by decide)
  exact ⟨hrooted, stepwise_machine hrooted _ _, by decide +kernel⟩

end ServiceSupervisor.Systemd
