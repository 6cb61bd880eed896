import ServiceSupervisor.Proofs.Service.Replies
import ServiceSupervisor.Proofs.Systemd.Registration

/-!
  Proofs/Systemd/Operands.lean --- which units `systemctl` is told about.

  What begins with a dash is an option, wherever it stands, unless two dashes stand before
  it by themselves.  The monitor writes them before every unit, so each is taken for the
  unit it is, whatever its name.  The verbs do not, so a supervisor whose name begins with a
  dash has a unit that they cannot name.
-/

set_option autoImplicit false

namespace ServiceSupervisor.Systemd

variable {scope : Scope} {unit command : String} {args : List String} {env : Environment}
  {name : OwnName} {m : Machine} {P Q : List String → Prop} {s s' s'' : Systemctl}

/-! ## How arguments are read -/

/-- Whether an argument is an option where options may stand; a dash alone is none. -/
def isOption (arg : String) : Bool :=
  match arg.toList with
  | '-' :: _ :: _ => true
  | _ => false

/-- The arguments that are no options.  Of the options that are given, `-p` has the argument
behind it for its value. -/
def operands : List String → List String
  | [] => []
  | "--" :: rest => rest
  | "-p" :: _ :: rest => operands rest
  | arg :: rest => if isOption arg then operands rest else arg :: operands rest

/-- The arguments are read as a command about the unit. -/
def Names (args : List String) (unit : String) : Prop :=
  ∃ command, operands args = [command, unit]

/-- The text begins with a dash. -/
def Dashed (text : String) : Prop := text.toList.head? = some '-'

instance (text : String) : Decidable (Dashed text) :=
  inferInstanceAs (Decidable (text.toList.head? = some '-'))

/-- The unit stands last, with `--` before it if it begins with a dash. -/
def Guarded (args : List String) (unit : String) : Prop :=
  ∃ before, args = before ++ [unit] ∧ ("--" ∈ before ∨ ¬ Dashed unit)

theorem operands_singleton (arg : String) :
    operands [arg] = if isOption arg then [] else [arg] := by
  by_cases h : arg = "--"
  · rw [h]
    rfl
  · simp [operands]

theorem isOption_iff {arg : String} (h : arg ≠ "-") : isOption arg = true ↔ Dashed arg := by
  rcases hchars : arg.toList with _ | ⟨c, _ | ⟨d, rest⟩⟩
  · simp [isOption, Dashed, hchars]
  · have hdash : c ≠ '-' := by
      rintro rfl
      exact h (String.toList_inj.mp hchars)
    simp [isOption, Dashed, hchars, hdash]
  · by_cases hdash : c = '-' <;> simp [isOption, Dashed, hchars, hdash]

theorem dashed_unitName (name : OwnName) : Dashed (unitName name) ↔ Dashed name.text := by
  obtain ⟨c, rest, hname⟩ := name.exists_toList_eq_cons
  simp only [Dashed, unitName, String.toList_append, hname, List.cons_append, List.head?_cons]

/-- The name of a unit is never a dash alone. -/
theorem isOption_unitName (name : OwnName) :
    isOption (unitName name) = true ↔ Dashed name.text := by
  rw [← dashed_unitName]
  refine isOption_iff fun hdash => ?_
  have hlength : name.text.length + 8 = 1 := by
    rw [unitName] at hdash
    exact (String.length_append ..).symm.trans (congrArg String.length hdash)
  omega

/-! ## What the monitor's calls name -/

theorem names_showCall (scope : Scope) (unit : String) : Names (showCall scope unit) unit := by
  cases scope <;> exact ⟨"show", rfl⟩

theorem names_startCall (scope : Scope) (unit : String) : Names (startCall scope unit) unit := by
  cases scope <;> exact ⟨"start", rfl⟩

theorem guarded_showCall (scope : Scope) (unit : String) : Guarded (showCall scope unit) unit := by
  refine ⟨addressed scope ["show", "-p", "LoadState", "-p", "ActiveState", "--"], ?_, Or.inl ?_⟩
  · cases scope <;> rfl
  · cases scope <;> decide

theorem guarded_startCall (scope : Scope) (unit : String) :
    Guarded (startCall scope unit) unit := by
  refine ⟨addressed scope ["start", "--no-block", "--"], ?_, Or.inl ?_⟩
  · cases scope <;> rfl
  · cases scope <;> decide

/-! ## What the verbs' calls name -/

/-- The commands that the verbs give about the supervisor's own unit. -/
def ownCommands : List String := ["enable", "disable", "start", "stop"]

/-- The arguments that name no unit, and make systemd read all of them again. -/
def reloadArgs (scope : Scope) : List String := addressed scope ["daemon-reload"]

/-- What `systemctl` is run with for the supervisor's own unit. -/
inductive OwnCall (scope : Scope) (unit : String) : List String → Prop
  | reloads : OwnCall scope unit (reloadArgs scope)
  | shows : OwnCall scope unit (showCall scope unit)
  | manages {command : String} (h : command ∈ ownCommands) :
      OwnCall scope unit (addressed scope [command, unit])

theorem ownCommands_cases (h : command ∈ ownCommands) :
    command = "enable" ∨ command = "disable" ∨ command = "start" ∨ command = "stop" := by
  simpa [ownCommands] using h

theorem operands_manages (h : command ∈ ownCommands) (scope : Scope) (unit : String) :
    operands (addressed scope [command, unit]) =
      if isOption unit then [command] else [command, unit] := by
  have hread : operands (addressed scope [command, unit]) = command :: operands [unit] := by
    rcases ownCommands_cases h with rfl | rfl | rfl | rfl <;> cases scope <;> rfl
  rw [hread, operands_singleton]
  split <;> rfl

theorem names_manages_iff (h : command ∈ ownCommands) (scope : Scope) (name : OwnName) :
    Names (addressed scope [command, unitName name]) (unitName name) ↔
      ¬ Dashed name.text := by
  rw [Names, operands_manages h, ← isOption_unitName]
  split
  · next hoption => simp [hoption]
  · next hplain => exact iff_of_true ⟨command, rfl⟩ hplain

theorem guarded_manages_iff (h : command ∈ ownCommands) (scope : Scope) (name : OwnName) :
    Guarded (addressed scope [command, unitName name]) (unitName name) ↔
      ¬ Dashed name.text := by
  have hsplit : addressed scope [command, unitName name] =
      addressed scope [command] ++ [unitName name] := by
    cases scope <;> rfl
  have hdashes : "--" ∉ addressed scope [command] := by
    rcases ownCommands_cases h with rfl | rfl | rfl | rfl <;> cases scope <;> decide
  rw [← dashed_unitName, hsplit]
  constructor
  · rintro ⟨before, hbefore, hguard⟩
    obtain ⟨rfl, -⟩ := List.append_inj' hbefore rfl
    exact hguard.resolve_left hdashes
  · intro hplain
    exact ⟨_, rfl, Or.inr hplain⟩

/-- The supervisor's own unit is shown behind two dashes, and named without them otherwise. -/
theorem OwnCall.cases_guarded (h : OwnCall scope (unitName name) args) :
    args = reloadArgs scope ∨
      (Names args (unitName name) ↔ Guarded args (unitName name)) ∧
        (Guarded args (unitName name) ↔
          args = showCall scope (unitName name) ∨ ¬ Dashed name.text) := by
  cases h with
  | reloads => exact Or.inl rfl
  | shows =>
    have hguarded := guarded_showCall scope (unitName name)
    exact Or.inr ⟨iff_of_true (names_showCall _ _) hguarded, iff_of_true hguarded (Or.inl rfl)⟩
  | @manages command hcommand =>
    have hother : addressed scope [command, unitName name] ≠ showCall scope (unitName name) := by
      cases scope <;> simp [addressed, showCall]
    rw [names_manages_iff hcommand, guarded_manages_iff hcommand]
    exact Or.inr ⟨Iff.rfl, by simp [hother]⟩

/-! ## What is run -/

/-- All that `systemctl` was run with between two moments is as described. -/
def Ran (P : List String → Prop) (s s' : Systemctl) : Prop :=
  ∃ made, s'.attempts.map Attempt.args = s.attempts.map Attempt.args ++ made ∧
    ∀ args ∈ made, P args

theorem Ran.refl (P : List String → Prop) (s : Systemctl) : Ran P s s :=
  ⟨[], by simp, by simp⟩

theorem Ran.trans (h : Ran P s s') (h' : Ran P s' s'') : Ran P s s'' := by
  obtain ⟨made, hmade, hall⟩ := h
  obtain ⟨more, hmore, hall'⟩ := h'
  refine ⟨made ++ more, by rw [hmore, hmade, List.append_assoc], fun args hargs => ?_⟩
  exact (List.mem_append.mp hargs).elim (hall args) (hall' args)

theorem Ran.mono (h : Ran P s s') (himp : ∀ args, P args → Q args) : Ran Q s s' := by
  obtain ⟨made, hmade, hall⟩ := h
  exact ⟨made, hmade, fun args hargs => himp args (hall args hargs)⟩

/-- However a start of the program goes, it is one with these arguments, if it is one. -/
theorem ran_run (h : P args) (limit : Option Duration) (s : Systemctl) :
    Ran P s (s.run limit args).2 := by
  by_cases hplain : Systemctl.arePlain args = true
  · rw [Systemctl.run_of_arePlain hplain]
    exact ⟨[args], by simp [Exchange.attempt, Systemctl.next], by simpa using h⟩
  · rw [Systemctl.run, if_neg hplain]
    exact Ran.refl P s

theorem ran_query (h : P (showCall scope unit)) (limit : Duration) (s : Systemctl) :
    Ran P s (query scope limit unit s).2 := by
  rw [← showArgs_eq] at h
  exact ran_run h (some limit) s

theorem ran_start (hshow : P (showCall scope unit)) (hstart : P (startCall scope unit))
    (limit : Duration) (s : Systemctl) : Ran P s (start scope limit unit s).2 := by
  rw [← startArgs_eq] at hstart
  have hran := ran_run hstart (some limit) s
  simp only [start]
  generalize s.run (some limit) (startArgs scope unit) = ran at hran ⊢
  obtain ⟨e | - | ⟨_ | _, out, err⟩, s₁⟩ := ran
  · exact hran
  · exact hran
  · -- a start that was refused is looked into
    exact hran.trans (ran_query hshow limit s₁)
  · exact hran

theorem ran_ask (scope : Scope) (limit : Duration) (s : Systemctl) (call : Call) :
    Ran (fun args => Guarded args call.service ∧ Names args call.service) s
      ((manager scope limit).ask s call).2 := by
  have hshow (unit : String) : Guarded (showCall scope unit) unit ∧
      Names (showCall scope unit) unit :=
    ⟨guarded_showCall scope unit, names_showCall scope unit⟩
  cases call with
  | query unit => exact ran_query (hshow unit) limit s
  | start unit =>
    exact ran_start (hshow unit) ⟨guarded_startCall scope unit, names_startCall scope unit⟩ limit s

theorem ran_after (scope : Scope) (limit : Duration) (s : Systemctl) (calls : List Call) :
    Ran (fun args => ∃ call ∈ calls, Guarded args call.service ∧ Names args call.service) s
      ((manager scope limit).after s calls) := by
  induction calls generalizing s with
  | nil => exact Ran.refl _ s
  | cons call calls ih =>
    have hfirst := ran_ask scope limit s call
    refine (hfirst.mono fun args hargs => ⟨call, List.mem_cons_self, hargs⟩).trans ?_
    refine (ih _).mono fun args hargs => ?_
    obtain ⟨call', hcall', hargs⟩ := hargs
    exact ⟨call', List.mem_cons_of_mem call hcall', hargs⟩

/-! ## What a verb runs -/

/-- What is run is what some steps call for. -/
theorem ran_of_follows {steps : List Step} {out : Except VerbError Unit × Machine}
    (h : Follows env steps m out)
    (hsteps : ∀ step ∈ steps, ∀ args ∈ step.args? env.scope, P args) :
    Ran P m.systemctl out.2.systemctl := by
  obtain ⟨taken, hruns⟩ := h
  refine ⟨_, hruns.args_eq, fun args hargs => ?_⟩
  obtain ⟨x, hx, hcalled⟩ := List.mem_filterMap.mp hargs
  exact hsteps x.step (hruns.step_mem x hx) args hcalled

theorem ownCall_installSteps (u : UnitSpec) (config : Option String) :
    ∀ step ∈ installSteps u config, ∀ args ∈ step.args? scope,
      OwnCall scope (unitName u.name) args := by
  intro step hstep args hargs
  simp only [installSteps, List.mem_cons, List.not_mem_nil, or_false] at hstep
  rcases hstep with rfl | rfl | rfl | rfl
  · cases hargs
  · cases hargs
  · cases hargs
    exact .reloads
  · cases hargs
    exact .manages (by decide)

theorem ownCall_deleteSteps (unit : String) (told : Except QueryError Status) :
    ∀ step ∈ deleteSteps unit told, ∀ args ∈ step.args? scope, OwnCall scope unit args := by
  intro step hstep args hargs
  have hstop : ∀ step ∈ stopSteps unit told, step = .call ["stop", unit] := by
    rcases told with e | ⟨_ | _⟩ <;> simp [stopSteps]
  simp only [deleteSteps, unlinkSteps, List.cons_append, List.mem_cons, List.mem_append,
    List.not_mem_nil, or_false] at hstep
  rcases hstep with rfl | (hstep | rfl) | rfl | rfl
  · cases hargs
    exact .shows
  · cases hstop step hstep
    cases hargs
    exact .manages (by decide)
  · cases hargs
    exact .manages (by decide)
  · cases hargs
  · cases hargs
    exact .reloads

theorem ran_perform (env : Environment) (program : String) (name : OwnName)
    (config : Option String) (verb : Verb) (m : Machine) :
    Ran (OwnCall env.scope (unitName name)) m.systemctl
      (perform env program name config verb m).2.systemctl := by
  have hcall {command : String} (h : command ∈ ownCommands) :
      Ran (OwnCall env.scope (unitName name)) m.systemctl
        (Deed.call env.scope [command, unitName name] m).2.systemctl :=
    ran_run (scopeArgs_append env.scope _ ▸ .manages h) none m.systemctl
  cases verb with
  | install =>
    exact ran_of_follows (follows_install env program name config m) (ownCall_installSteps _ config)
  | delete =>
    obtain ⟨told, hfollows⟩ := follows_delete env name m
    exact ran_of_follows hfollows (ownCall_deleteSteps _ told)
  | start => exact hcall (by decide)
  | stop => exact hcall (by decide)

/-! ## The main statement -/

/-- What the units are taken for that `systemctl` is told about, in whatever state the machine
is. -/
structure NamesUnits (env : Environment) (name : OwnName) (m : Machine) : Prop where
  /-- The units that the monitor asks about are guarded and read as units, whatever they are
  called and however many there are. -/
  watched : ∀ limit calls,
    Ran (fun args => ∃ call ∈ calls, Guarded args call.service ∧ Names args call.service)
      m.systemctl ((manager env.scope limit).after m.systemctl calls)
  /-- The supervisor's own is read as one where it is guarded, which it is when it is shown, and
  else if its name does not begin with a dash. -/
  own : ∀ program config verb,
    Ran (fun args => args = reloadArgs env.scope ∨
      (Names args (unitName name) ↔ Guarded args (unitName name)) ∧
        (Guarded args (unitName name) ↔
          args = showCall env.scope (unitName name) ∨ ¬ Dashed name.text))
      m.systemctl (perform env program name config verb m).2.systemctl
  /-- So only with such a name do all verbs guard it. -/
  guarded_iff : (∀ program config verb,
    Ran (fun args => args = reloadArgs env.scope ∨
        Guarded args (unitName name)) m.systemctl
      (perform env program name config verb m).2.systemctl) ↔ ¬ Dashed name.text

/-- What the verb `start` runs has no guard in it. -/
theorem args_perform_start (env : Environment) (program : String) (name : OwnName)
    (config : Option String) (m : Machine) :
    (perform env program name config .start m).2.systemctl.attempts.map Attempt.args =
      m.systemctl.attempts.map Attempt.args ++
        [addressed env.scope ["start", unitName name]] := by
  have hstep : IsStep env (.call ["start", unitName name]) m
      (Deed.call env.scope ["start", unitName name] m) :=
    isStep_call (nul_not_mem_verb (by decide) name) m
  exact hstep.args_eq

/-- Whatever `systemctl` does when it is run, the units that it is told about are read as
units, but for that of a supervisor whose name begins with a dash. -/
theorem namesUnits_machine (env : Environment) (name : OwnName) (m : Machine) :
    NamesUnits env name m where
  watched limit calls := ran_after env.scope limit m.systemctl calls
  own program config verb :=
    (ran_perform env program name config verb m).mono fun _ h => h.cases_guarded
  guarded_iff := by
    constructor
    · intro h
      obtain ⟨made, hmade, hall⟩ := h "" none .start
      rw [args_perform_start, List.append_cancel_left_eq] at hmade
      have hstart := hall (addressed env.scope ["start", unitName name]) (by simp [← hmade])
      refine (guarded_manages_iff (by decide) env.scope name).mp (hstart.resolve_left ?_)
      cases env.scope <;> simp [reloadArgs, addressed]
    · intro hplain program config verb
      refine (ran_perform env program name config verb m).mono fun args hargs => ?_
      exact hargs.cases_guarded.imp_right fun h => h.2.mpr (Or.inr hplain)

/-- A supervisor may be called `-x`.  What is run to start it has neither a guard before its
unit nor a unit in it. -/
theorem not_guarded_leading_dash :
    let name : OwnName := ⟨"-x", by decide, by decide⟩
    let m : Machine := ⟨⟨[], [], []⟩, ⟨fun _ => .runs (.ofSeconds 0) true [] [], []⟩, []⟩
    let started := perform ⟨1000, [], none⟩ "/bin/keep" name none .start m
    let args := ["--user", "start", unitName name]
    OwnName.ofText "-x" = .ok name ∧ unitName name = "-x.service" ∧
      started.2.systemctl.attempts = [⟨args, true⟩] ∧ ¬ Guarded args (unitName name) ∧
      operands args = ["start"] := by
  intro name m started args
  have hguarded : Guarded args (unitName name) ↔ ¬ Dashed name.text :=
    guarded_manages_iff (by decide) .user name
  refine ⟨OwnName.ofText_eq_ok_iff.mpr rfl, by decide +kernel, by decide +kernel, ?_,
    by decide +kernel⟩
  rw [hguarded, not_not]
  decide

end ServiceSupervisor.Systemd
