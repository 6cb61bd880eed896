import ServiceSupervisor.Proofs.Settings.Backends
import ServiceSupervisor.Settings.LogTarget

/-!
  Proofs/Settings/Reads.lean --- which settings are read, in which order, and what is
  returned of the first that will not do.

  A load is a list of demands on settings, made one after the other.  It ends with the
  first answer that does not meet its demand, and then that answer says what is wrong;
  the values are looked into only once every demand is met.
-/

set_option autoImplicit false

namespace ServiceSupervisor.Settings

variable {σ : Type}

/-! ## Demands -/

/-- What a read is answered with. -/
abbrev Answer : Type := Except Error (Option Value)

/-- The name that was read, and the answer. -/
abbrev Read : Type := String × Answer

/-- What comes of a setting that is absent. -/
inductive Absence where
  | fault
  | allowed
  /-- there is nothing more to ask for -/
  | enough
  deriving DecidableEq, Repr

/-- A setting that is asked for, and the type it must have. -/
structure Demand where
  key : Key
  /-- the type, in the words of a message -/
  wanted : String
  fits : Value → Bool
  absence : Absence

namespace Demand

/-- What is wrong with an answer: the source's own error, the type, or that there is
nothing. -/
def fault? (d : Demand) : Answer → Option Error
  | .error e => some e
  | .ok (some v) =>
    if d.fits v then none else some (.malformed d.key (.wrongType d.wanted v.typeName))
  | .ok none => if d.absence = .fault then some (.missing d.key) else none

/-- Whether an answer without a fault ends the demands all the same. -/
def ends (d : Demand) : Answer → Bool
  | .ok none => d.absence = .enough
  | _ => false

end Demand

/-- Makes demands of a source in order: the reads that this takes, the fault that ended
them if one did, and the state after it. -/
def inquire (source : Source σ) : List Demand → σ → List Read × Option Error × σ
  | [], s => ([], none, s)
  | d :: ds, s =>
    let (answer, s') := (source.read d.key.name).run s
    match d.fault? answer with
    | some e => ([(d.key.name, answer)], some e, s')
    | none =>
      if d.ends answer then ([(d.key.name, answer)], none, s')
      else
        let (reads, fault?, s'') := inquire source ds s'
        ((d.key.name, answer) :: reads, fault?, s'')

/-- The source, with every read of it recorded behind those before. -/
def recording (source : Source σ) : Source (σ × List Read) where
  location := source.location
  read name := fun (s, reads) =>
    let (answer, s') := (source.read name).run s
    (answer, s', reads ++ [(name, answer)])

/-- Whether the value is an integer. -/
def isInteger : Value → Bool
  | .integer _ => true
  | _ => false

/-- Whether the value is a text. -/
def isText : Value → Bool
  | .text _ => true
  | _ => false

/-- Whether the value is a list of texts. -/
def isTextList : Value → Bool
  | .textList _ => true
  | _ => false

/-- What a plan takes. -/
def planDemands : List Demand :=
  [⟨.services, "a string list", isTextList, .fault⟩,
   ⟨.pollInterval, "an integer", isInteger, .fault⟩,
   ⟨.initialDelay, "an integer", isInteger, .allowed⟩]

/-- What a log target takes. -/
def logDemands : List Demand :=
  [⟨.logPath, "a string", isText, .enough⟩, ⟨.logLevel, "an integer", isInteger, .allowed⟩]

section Inquire

variable {source : Source σ} {s s' : σ} {d : Demand} {ds : List Demand} {answer : Answer}
  {e : Error}

theorem inquire_of_fault (hread : (source.read d.key.name).run s = (answer, s'))
    (hfault : d.fault? answer = some e) :
    inquire source (d :: ds) s = ([(d.key.name, answer)], some e, s') := by
  simp only [inquire, hread, hfault]

theorem inquire_of_ends (hread : (source.read d.key.name).run s = (answer, s'))
    (hfault : d.fault? answer = none) (hends : d.ends answer = true) :
    inquire source (d :: ds) s = ([(d.key.name, answer)], none, s') := by
  simp only [inquire, hread, hfault, hends, if_true]

theorem inquire_of_met (hread : (source.read d.key.name).run s = (answer, s'))
    (hfault : d.fault? answer = none) (hends : d.ends answer = false) :
    inquire source (d :: ds) s =
      ((d.key.name, answer) :: (inquire source ds s').1, (inquire source ds s').2) := by
  simp only [inquire, hread, hfault, hends, Bool.false_eq_true, if_false]

/-- The settings are read in the order of the demands, none of them out of turn. -/
theorem names_inquire_prefix (source : Source σ) (ds : List Demand) (s : σ) :
    (inquire source ds s).1.map (·.1) <+: ds.map (·.key.name) := by
  induction ds generalizing s with
  | nil => exact List.prefix_rfl
  | cons d ds ih =>
    obtain ⟨answer, s', hread⟩ : ∃ answer s', (source.read d.key.name).run s = (answer, s') :=
      ⟨_, _, rfl⟩
    cases hfault : d.fault? answer with
    | some e =>
      rw [inquire_of_fault hread hfault]
      exact List.prefix_append [d.key.name] (ds.map (·.key.name))
    | none =>
      cases hends : d.ends answer with
      | true =>
        rw [inquire_of_ends hread hfault hends]
        exact List.prefix_append [d.key.name] (ds.map (·.key.name))
      | false =>
        rw [inquire_of_met hread hfault hends]
        exact (List.prefix_append_right_inj [d.key.name]).mpr (ih s')

/-- What is recorded of demands are the reads they take. -/
theorem inquire_recording (source : Source σ) (ds : List Demand) (s : σ) (before : List Read) :
    inquire (recording source) ds (s, before) =
      ((inquire source ds s).1, (inquire source ds s).2.1,
        (inquire source ds s).2.2, before ++ (inquire source ds s).1) := by
  induction ds generalizing s before with
  | nil => simp [inquire]
  | cons d ds ih =>
    obtain ⟨answer, s', hread⟩ : ∃ answer s', (source.read d.key.name).run s = (answer, s') :=
      ⟨_, _, rfl⟩
    have hrecord : ((recording source).read d.key.name).run (s, before) =
        (answer, s', before ++ [(d.key.name, answer)]) := by
      rw [ExceptT.run] at hread ⊢
      simp only [recording, ExceptT.run, hread]
    cases hfault : d.fault? answer with
    | some e => rw [inquire_of_fault hread hfault, inquire_of_fault hrecord hfault]
    | none =>
      cases hends : d.ends answer with
      | true => rw [inquire_of_ends hread hfault hends, inquire_of_ends hrecord hfault hends]
      | false =>
        rw [inquire_of_met hread hfault hends, inquire_of_met hrecord hfault hends, ih,
          List.append_assoc, List.singleton_append]

end Inquire

/-! ## What comes of the reads -/

/-- What becomes of the reads for a plan and of the fault among them: the fault is
returned as it is, and without one the values make the plan, an absent first delay being
none. -/
inductive PlanFrom : List Read → Option Error → Logged (Except Error WatchPlan) → Prop
  | refused {reads : List Read} {e : Error} : PlanFrom reads (some e) (pure (.error e))
  | made (names : List String) (poll : Nat) (initial : Option Nat) :
    PlanFrom
      [(Key.services.name, .ok (some (.textList names))),
       (Key.pollInterval.name, .ok (some (.integer poll))),
       (Key.initialDelay.name, .ok (initial.map .integer))] none
      (WatchPlan.make names (.ofMillis poll) (.ofMillis (initial.getD 0)))

/-- The level that a number asks for; a number that no level has asks for the most
talkative one. -/
inductive LevelFor : Nat → Level → Prop
  | error : LevelFor 1 .error
  | warn : LevelFor 2 .warn
  | info : LevelFor 3 .info
  | debug : LevelFor 4 .debug
  | trace : LevelFor 5 .trace
  | beyond {n : Nat} (h : n = 0 ∨ 5 < n) : LevelFor n .trace

/-- What becomes of the reads for a log target and of the fault among them. -/
inductive LogFrom : List Read → Option Error → Except Error (Option LogTarget) → Prop
  | refused {reads : List Read} {e : Error} : LogFrom reads (some e) (.error e)
  | off : LogFrom [(Key.logPath.name, .ok none)] none (.ok none)
  | errorsOnly (path : String) :
    LogFrom [(Key.logPath.name, .ok (some (.text path))), (Key.logLevel.name, .ok none)] none
      (.ok (some ⟨path, .error⟩))
  | numbered (path : String) {n : Nat} {level : Level} (h : LevelFor n level) :
    LogFrom
      [(Key.logPath.name, .ok (some (.text path))), (Key.logLevel.name, .ok (some (.integer n)))]
      none (.ok (some ⟨path, level⟩))

/-- The reads and the fault among them leave one outcome. -/
theorem PlanFrom.unique {reads : List Read} {fault? : Option Error}
    {outcome outcome' : Logged (Except Error WatchPlan)} (h : PlanFrom reads fault? outcome)
    (h' : PlanFrom reads fault? outcome') : outcome = outcome' := by
  rcases h with _ | ⟨names, poll, initial⟩
  · cases h'
    rfl
  · generalize hreads : [(Key.services.name, (.ok (some (.textList names)) : Answer)),
      (Key.pollInterval.name, .ok (some (.integer poll))),
      (Key.initialDelay.name, .ok (initial.map .integer))] = reads at h'
    rcases h' with _ | ⟨names', poll', initial'⟩
    simp only [List.cons.injEq, Prod.mk.injEq, Except.ok.injEq, Option.some.injEq,
      Value.textList.injEq, Value.integer.injEq, true_and, and_true] at hreads
    obtain ⟨rfl, rfl, hinitial⟩ := hreads
    have hinj : Function.Injective Value.integer := fun _ _ => Value.integer.inj
    rw [Option.map_injective hinj hinitial]

theorem levelOfNumber_of_levelFor {n : Nat} {level : Level} (h : LevelFor n level) :
    LogTarget.levelOfNumber n = level := by
  cases h with
  | beyond h =>
    have hnone : Level.all.find? (fun l => l.rank == n) = none := by
      rw [List.find?_eq_none]
      intro level _
      cases level <;> simp [Level.rank] <;> omega
    rw [LogTarget.levelOfNumber, hnone, Option.getD_none]
  | _ => rfl

theorem levelFor_levelOfNumber (n : Nat) : LevelFor n (LogTarget.levelOfNumber n) := by
  have hlevel : ∃ level, LevelFor n level := by
    rcases n with _ | _ | _ | _ | _ | _ | n
    · exact ⟨_, .beyond (Or.inl rfl)⟩
    · exact ⟨_, .error⟩
    · exact ⟨_, .warn⟩
    · exact ⟨_, .info⟩
    · exact ⟨_, .debug⟩
    · exact ⟨_, .trace⟩
    · exact ⟨_, .beyond (Or.inr (by omega))⟩
  obtain ⟨level, h⟩ := hlevel
  rw [levelOfNumber_of_levelFor h]
  exact h

theorem LogFrom.unique {reads : List Read} {fault? : Option Error}
    {outcome outcome' : Except Error (Option LogTarget)} (h : LogFrom reads fault? outcome)
    (h' : LogFrom reads fault? outcome') : outcome = outcome' := by
  cases h with
  | numbered path hlevel =>
    cases h' with
    | numbered _ hlevel' =>
      rw [← levelOfNumber_of_levelFor hlevel, levelOfNumber_of_levelFor hlevel']
  | _ =>
    cases h'
    rfl

/-! ## Loading -/

section Loading

variable {source : Source σ} {s s₁ s₂ : σ} {key : Key} {answer : Answer} {e : Error}

/-- An answer to a demand for a number has a fault, or is a number or nothing. -/
theorem integer_or_fault (key : Key) (answer : Answer) :
    (∃ n? : Option Nat, answer = .ok (n?.map .integer)) ∨
      ∃ e, ∀ absence, Demand.fault? ⟨key, "an integer", isInteger, absence⟩ answer = some e := by
  rcases answer with e | _ | v
  · exact Or.inr ⟨e, fun _ => rfl⟩
  · exact Or.inl ⟨none, rfl⟩
  · cases v with
    | integer n => exact Or.inl ⟨some n, rfl⟩
    | _ => exact Or.inr ⟨.malformed key (.wrongType "an integer" _), fun _ => rfl⟩

theorem readMillis_of_integer {n? : Option Nat}
    (h : (source.read key.name).run s = (.ok (n?.map .integer), s₁)) :
    (WatchPlan.readMillis source key).run s = (.ok n?, s₁) := by
  rw [WatchPlan.readMillis, run_bind_of_ok h]
  cases n? <;> rfl

theorem readMillis_of_fault (h : (source.read key.name).run s = (answer, s₁))
    (hfault : Demand.fault? ⟨key, "an integer", isInteger, .allowed⟩ answer = some e) :
    (WatchPlan.readMillis source key).run s = (.error e, s₁) := by
  rcases answer with e' | _ | v
  · cases hfault
    rw [WatchPlan.readMillis, run_bind_of_error h]
  · cases hfault
  · rw [WatchPlan.readMillis, run_bind_of_ok h]
    cases v <;> cases hfault <;> rfl

/-- An answer to the demand for names has a fault, or is a list of names. -/
theorem textList_or_fault (answer : Answer) :
    (∃ names, answer = .ok (some (.textList names))) ∨
      ∃ e, Demand.fault? ⟨.services, "a string list", isTextList, .fault⟩ answer = some e := by
  rcases answer with e | _ | v
  · exact Or.inr ⟨e, rfl⟩
  · exact Or.inr ⟨.missing .services, rfl⟩
  · cases v with
    | textList names => exact Or.inl ⟨names, rfl⟩
    | _ => exact Or.inr ⟨_, rfl⟩

theorem readParts_of_fault (h : (source.read Key.services.name).run s = (answer, s₁))
    (hfault : Demand.fault? ⟨.services, "a string list", isTextList, .fault⟩ answer = some e) :
    (WatchPlan.readParts source).run s = (.error e, s₁) := by
  rcases answer with e' | _ | v
  · cases hfault
    rw [WatchPlan.readParts, run_bind_of_error h]
  · cases hfault
    rw [WatchPlan.readParts, run_bind_of_ok h]
    rfl
  · rw [WatchPlan.readParts, run_bind_of_ok h]
    cases v <;> cases hfault <;> rfl

/-- An answer to the demand for a text has a fault, or is a text or nothing. -/
theorem text_or_fault (answer : Answer) :
    (∃ text? : Option String, answer = .ok (text?.map .text)) ∨
      ∃ e, Demand.fault? ⟨.logPath, "a string", isText, .enough⟩ answer = some e := by
  rcases answer with e | _ | v
  · exact Or.inr ⟨e, rfl⟩
  · exact Or.inl ⟨none, rfl⟩
  · cases v with
    | text s => exact Or.inl ⟨some s, rfl⟩
    | _ => exact Or.inr ⟨_, rfl⟩

theorem logLoad_of_fault (h : (source.read Key.logPath.name).run s = (answer, s₁))
    (hfault : Demand.fault? ⟨.logPath, "a string", isText, .enough⟩ answer = some e) :
    (LogTarget.load source).run s = (.error e, s₁) := by
  rcases answer with e' | _ | v
  · cases hfault
    rw [LogTarget.load, run_bind_of_error h]
  · cases hfault
  · rw [LogTarget.load, run_bind_of_ok h]
    cases v <;> cases hfault <;> rfl

/-- A plan is loaded by its demands, and is what comes of their reads. -/
theorem exists_load (source : Source σ) (s : σ) :
    ∃ outcome, WatchPlan.load source s = (outcome, (inquire source planDemands s).2.2) ∧
      PlanFrom (inquire source planDemands s).1 (inquire source planDemands s).2.1 outcome := by
  have hload : ∀ {e : Error} {s' : σ}, (WatchPlan.readParts source).run s = (.error e, s') →
      WatchPlan.load source s = (pure (.error e), s') := by
    intro e s' h
    rw [WatchPlan.load, h]
  obtain ⟨answer₁, s₁, hservices⟩ : ∃ a s', (source.read Key.services.name).run s = (a, s') :=
    ⟨_, _, rfl⟩
  obtain ⟨answer₂, s₂, hpoll⟩ : ∃ a s', (source.read Key.pollInterval.name).run s₁ = (a, s') :=
    ⟨_, _, rfl⟩
  obtain ⟨answer₃, s₃, hinitial⟩ : ∃ a s', (source.read Key.initialDelay.name).run s₂ = (a, s') :=
    ⟨_, _, rfl⟩
  rw [planDemands]
  rcases textList_or_fault answer₁ with ⟨names, rfl⟩ | ⟨e, hfault⟩
  swap
  · rw [inquire_of_fault hservices hfault]
    exact ⟨_, hload (readParts_of_fault hservices hfault), .refused⟩
  rw [inquire_of_met hservices rfl rfl]
  have hparts : (WatchPlan.readParts source).run s = _ := run_bind_of_ok hservices
  simp only [pure_bind] at hparts
  rcases integer_or_fault .pollInterval answer₂ with ⟨n?, rfl⟩ | ⟨e, hfault⟩
  swap
  · rw [inquire_of_fault hpoll (hfault .fault)]
    rw [run_bind_of_error (readMillis_of_fault hpoll (hfault .allowed))] at hparts
    exact ⟨_, hload hparts, .refused⟩
  rw [run_bind_of_ok (readMillis_of_integer hpoll)] at hparts
  cases n? with
  | none =>
    rw [inquire_of_fault hpoll rfl]
    exact ⟨_, hload hparts, .refused⟩
  | some poll =>
    rw [inquire_of_met hpoll rfl rfl]
    rcases integer_or_fault .initialDelay answer₃ with ⟨initial, rfl⟩ | ⟨e, hfault⟩
    · rw [run_bind_of_ok (readMillis_of_integer hinitial)] at hparts
      have hmade : WatchPlan.load source s =
          (WatchPlan.make names (.ofMillis poll) (.ofMillis (initial.getD 0)), s₃) := by
        rw [WatchPlan.load, hparts]
        rfl
      rw [inquire_of_met hinitial (by cases initial <;> rfl) (by cases initial <;> rfl)]
      exact ⟨_, hmade, .made names poll initial⟩
    · rw [inquire_of_fault hinitial (hfault .allowed)]
      rw [run_bind_of_error (readMillis_of_fault hinitial (hfault .allowed))] at hparts
      exact ⟨_, hload hparts, .refused⟩

theorem logLoad_of_levelFault {path : String}
    (h : (source.read Key.logPath.name).run s = (.ok (some (.text path)), s₁))
    (hlevel : (source.read Key.logLevel.name).run s₁ = (answer, s₂))
    (hfault : Demand.fault? ⟨.logLevel, "an integer", isInteger, .allowed⟩ answer = some e) :
    (LogTarget.load source).run s = (.error e, s₂) := by
  rw [LogTarget.load, run_bind_of_ok h]
  rcases answer with e' | _ | v
  · cases hfault
    exact run_bind_of_error hlevel
  · cases hfault
  · refine (run_bind_of_ok hlevel).trans ?_
    cases v <;> cases hfault <;> rfl

/-- A log target is loaded by its demands, and is what comes of their reads. -/
theorem exists_logLoad (source : Source σ) (s : σ) :
    ∃ outcome,
      (LogTarget.load source).run s = (outcome, (inquire source logDemands s).2.2) ∧
        LogFrom (inquire source logDemands s).1 (inquire source logDemands s).2.1 outcome := by
  obtain ⟨answer₁, s₁, hpath⟩ : ∃ a s', (source.read Key.logPath.name).run s = (a, s') :=
    ⟨_, _, rfl⟩
  obtain ⟨answer₂, s₂, hlevel⟩ : ∃ a s', (source.read Key.logLevel.name).run s₁ = (a, s') :=
    ⟨_, _, rfl⟩
  rw [logDemands]
  rcases text_or_fault answer₁ with ⟨path?, rfl⟩ | ⟨e, hfault⟩
  swap
  · rw [inquire_of_fault hpath hfault]
    exact ⟨_, logLoad_of_fault hpath hfault, .refused⟩
  have hload : (LogTarget.load source).run s = _ := run_bind_of_ok hpath
  cases path? with
  | none =>
    rw [inquire_of_ends hpath rfl rfl]
    exact ⟨_, hload, .off⟩
  | some path =>
    rw [inquire_of_met hpath rfl rfl]
    simp only [Option.map_some] at hload
    rcases integer_or_fault .logLevel answer₂ with ⟨n?, rfl⟩ | ⟨e, hfault⟩
    · rw [run_bind_of_ok hlevel] at hload
      cases n? with
      | none =>
        rw [inquire_of_met hlevel rfl rfl]
        exact ⟨_, hload, .errorsOnly path⟩
      | some n =>
        rw [inquire_of_met hlevel rfl rfl]
        exact ⟨_, hload, .numbered path (levelFor_levelOfNumber n)⟩
    · rw [inquire_of_fault hlevel (hfault .allowed)]
      exact ⟨_, logLoad_of_levelFault hpath hlevel (hfault .allowed), .refused⟩

end Loading

/-! ## All of it -/

/-- How a source in state `s` is read when a plan and a log target are loaded from it. -/
structure ReadsInOrder (source : Source σ) (s : σ) : Prop where
  /-- the settings of a plan are read in their order, each once at the most, -/
  planNames : (inquire source planDemands s).1.map (·.1) <+:
    ["ServicesExpectedRunning", "SleepDurationMilliseconds", "InitialSleepDurationMilliseconds"]
  /-- by just the reads that its demands take, and it is what comes of them -/
  plan : ∃ outcome,
    WatchPlan.load source s = (outcome, (inquire source planDemands s).2.2) ∧
      WatchPlan.load (recording source) (s, []) =
        (outcome, (inquire source planDemands s).2.2, (inquire source planDemands s).1) ∧
      PlanFrom (inquire source planDemands s).1 (inquire source planDemands s).2.1 outcome
  /-- those of a log target are read likewise -/
  logNames : (inquire source logDemands s).1.map (·.1) <+: ["LogPath", "LogLevel"]
  logTarget : ∃ outcome,
    (LogTarget.load source).run s = (outcome, (inquire source logDemands s).2.2) ∧
      (LogTarget.load (recording source)).run (s, []) =
        (outcome, (inquire source logDemands s).2.2, (inquire source logDemands s).1) ∧
      LogFrom (inquire source logDemands s).1 (inquire source logDemands s).2.1 outcome

/-- Whatever a source holds, and wherever it fails, it is read in order, up to the first
answer that will not do. -/
theorem readsInOrder_load (source : Source σ) (s : σ) : ReadsInOrder source s where
  planNames := names_inquire_prefix source planDemands s
  plan := by
    obtain ⟨outcome, hload, hfrom⟩ := exists_load source s
    obtain ⟨recorded, hrecord, hsame⟩ := exists_load (recording source) (s, [])
    rw [inquire_recording, List.nil_append] at hrecord hsame
    rw [hsame.unique hfrom] at hrecord
    exact ⟨outcome, hload, hrecord, hfrom⟩
  logNames := names_inquire_prefix source logDemands s
  logTarget := by
    obtain ⟨outcome, hload, hfrom⟩ := exists_logLoad source s
    obtain ⟨recorded, hrecord, hsame⟩ := exists_logLoad (recording source) (s, [])
    rw [inquire_recording, List.nil_append] at hrecord hsame
    rw [hsame.unique hfrom] at hrecord
    exact ⟨outcome, hload, hrecord, hfrom⟩

/-- A time of the wrong type is found before the blank name that was read already, and the
first delay, which is refused, is not asked for. -/
example :
    (WatchPlan.load memory
        ⟨[("ServicesExpectedRunning", .textList [" "]),
            ("SleepDurationMilliseconds", .other "float")],
          [("InitialSleepDurationMilliseconds", "no")], []⟩).1 =
      pure (.error (.malformed .pollInterval (.wrongType "an integer" "float"))) := by
  decide +kernel

end ServiceSupervisor.Settings
