import ServiceSupervisor.Proofs.Registry.Reader
import ServiceSupervisor.Proofs.Registry.Value
import ServiceSupervisor.Proofs.Sequence
import ServiceSupervisor.Proofs.Settings.WatchPlan
import ServiceSupervisor.Settings.ConfigFile
import ServiceSupervisor.Toml.Document

/-!
  Proofs/Settings/Backends.lean --- the same settings in memory, in a file and in the registry.

  A plan's own names and times, however they are kept, load as that plan.  What the
  kinds of source differ in ends with what they answer to three reads; from there on
  they are one.
-/

set_option autoImplicit false

namespace ServiceSupervisor

open Settings

/-! ## What is loaded depends on three answers -/

/-- A computation that begins with a read goes on with what was read. -/
theorem Settings.run_bind_of_ok {σ α β : Type} {x : Reading σ α} {f : α → Reading σ β} {s s' : σ}
    {a : α} (h : x.run s = (.ok a, s')) : (x >>= f).run s = (f a).run s' :=
  bind_of_ok h

/-- A computation whose first read fails goes no further. -/
theorem Settings.run_bind_of_error {σ α β : Type} {x : Reading σ α} {f : α → Reading σ β}
    {s s' : σ} {e : Error} (h : x.run s = (.error e, s')) :
    (x >>= f).run s = (.error e, s') :=
  bind_of_error h

namespace WatchPlan

variable {σ : Type} {source : Source σ} {s s₁ s₂ s₃ : σ} {names : List String}
  {poll initial : Nat} {plan : WatchPlan}

/-- A source in state `s` answers a read with a value, and is in state `s'` then. -/
def Gives (source : Source σ) (s : σ) (key : Key) (v : Value) (s' : σ) : Prop :=
  (source.read key.name).run s = (.ok (some v), s')

theorem readMillis_of_gives {key : Key} {n : Nat} (h : Gives source s key (.integer n) s₁) :
    (readMillis source key).run s = (.ok (some n), s₁) := by
  rw [readMillis, run_bind_of_ok h]
  rfl

/-- Names and two counts make the plan, whatever source answers with them. -/
theorem load_of_gives (hservices : Gives source s .services (.textList names) s₁)
    (hpoll : Gives source s₁ .pollInterval (.integer poll) s₂)
    (hinitial : Gives source s₂ .initialDelay (.integer initial) s₃) :
    load source s = (make names (Duration.ofMillis poll) (Duration.ofMillis initial), s₃) := by
  have hparts : (readParts source).run s = (.ok (names, poll, initial), s₃) := by
    rw [readParts, run_bind_of_ok hservices]
    simp only [pure_bind]
    rw [run_bind_of_ok (readMillis_of_gives hpoll)]
    rw [run_bind_of_ok (readMillis_of_gives hinitial)]
    rfl
  rw [load, hparts]

/-- A source answers a read with a value in every state where `I` holds, and `I` holds
after that. -/
def Steady (I : σ → Prop) (source : Source σ) (key : Key) (v : Value) : Prop :=
  ∀ s, I s → ∃ s', Gives source s key v s' ∧ I s'

/-- Where the three answers are steady, the plan is what they make. -/
theorem load_of_steady {I : σ → Prop} (hs : I s)
    (hservices : Steady I source .services (.textList names))
    (hpoll : Steady I source .pollInterval (.integer poll))
    (hinitial : Steady I source .initialDelay (.integer initial)) :
    (load source s).1 = make names (Duration.ofMillis poll) (Duration.ofMillis initial) := by
  obtain ⟨s₁, hgives₁, hs₁⟩ := hservices s hs
  obtain ⟨s₂, hgives₂, hs₂⟩ := hpoll s₁ hs₁
  obtain ⟨s₃, hgives₃, _⟩ := hinitial s₂ hs₂
  rw [load_of_gives hgives₁ hgives₂ hgives₃]

end WatchPlan

open WatchPlan (Steady load_of_steady)

variable {names : List String} {poll initial : Nat} {key : Key} {v : Value}

/-! ## Memory -/

/-- Memory that holds names and two counts, and refuses nothing. -/
structure Settings.Memory.Holds (names : List String) (poll initial : Nat) (m : Memory) :
    Prop where
  unrefused : m.refusals = []
  services : m.get? Key.services.name = some (.textList names)
  pollInterval : m.get? Key.pollInterval.name = some (.integer poll)
  initialDelay : m.get? Key.initialDelay.name = some (.integer initial)

namespace Settings.Memory.Holds

theorem gives {m : Memory} (h : m.Holds names poll initial)
    (hget : m.get? key.name = some v) :
    ∃ m', WatchPlan.Gives memory m key v m' ∧ m'.Holds names poll initial := by
  refine ⟨{ m with asked := m.asked ++ [key.name] }, ?_, ⟨h.unrefused, h.services,
    h.pollInterval, h.initialDelay⟩⟩
  simp only [WatchPlan.Gives, memory, ExceptT.run, h.unrefused, List.find?_nil, hget]

theorem load {m : Memory} (h : m.Holds names poll initial) :
    (WatchPlan.load memory m).1 =
      WatchPlan.make names (Duration.ofMillis poll) (Duration.ofMillis initial) :=
  load_of_steady h (fun _ h => h.gives h.services) (fun _ h => h.gives h.pollInterval)
    (fun _ h => h.gives h.initialDelay)

end Settings.Memory.Holds

/-! ## A file -/

/-- A reader whose file is read as the table `t`, or was, and `t` holds names and two
counts. -/
structure Settings.FileReader.Holds (parser : ConfigFile.Parser) (path : String)
    (t : Toml.Entries) (names : List String) (poll initial : Nat) (r : FileReader) : Prop where
  reads : ((ConfigFile.table parser path).run r).1 = .ok t
  services :
    t.get? Key.services.name = some (.array (names.map fun name => .scalar (.string name)))
  pollInterval : t.get? Key.pollInterval.name = some (.scalar (.integer poll))
  initialDelay : t.get? Key.initialDelay.name = some (.scalar (.integer initial))

namespace Settings.ConfigFile

variable {parser : Parser} {path : String} {r r' : FileReader} {t : Toml.Entries}

/-- A table that was read once is the one that is read from then on. -/
theorem table_of_ok (h : (table parser path).run r = (.ok t, r')) :
    (table parser path).run r' = (.ok t, r') := by
  simp only [table, ExceptT.run] at h ⊢
  split at h
  · next kept hkept =>
    cases h
    rw [hkept]
  · split at h
    · cases h
      rfl
    · cases h

theorem valueOf_strings (names : List String) :
    valueOf (.array (names.map fun name => .scalar (.string name))) = .textList names := by
  have hmap : (names.map fun name => Toml.Node.scalar (.string name)).mapM stringOf? =
      some names := Text.mapM_map_eq_some fun _ _ => rfl
  rw [valueOf, hmap]

theorem valueOf_integer (n : Nat) : valueOf (.scalar (.integer n)) = .integer n := by
  simp [valueOf]

end Settings.ConfigFile

namespace Settings.FileReader.Holds

variable {parser : ConfigFile.Parser} {path : String} {t : Toml.Entries} {r : FileReader}

theorem gives {node : Toml.Node} (h : r.Holds parser path t names poll initial)
    (hget : t.get? key.name = some node) :
    ∃ r', WatchPlan.Gives (ConfigFile.source parser path) r key (ConfigFile.valueOf node) r' ∧
      r'.Holds parser path t names poll initial := by
  have hreads : (ConfigFile.table parser path).run r =
      (.ok t, ((ConfigFile.table parser path).run r).2) := Prod.ext h.reads rfl
  refine ⟨((ConfigFile.table parser path).run r).2, ?_, ⟨?_, h.services, h.pollInterval,
    h.initialDelay⟩⟩
  · simp only [WatchPlan.Gives, ConfigFile.source]
    rw [run_bind_of_ok hreads, hget]
    rfl
  · rw [ConfigFile.table_of_ok hreads]

theorem load (h : r.Holds parser path t names poll initial) :
    (WatchPlan.load (ConfigFile.source parser path) r).1 =
      WatchPlan.make names (Duration.ofMillis poll) (Duration.ofMillis initial) := by
  apply load_of_steady h
  · intro r h
    rw [← ConfigFile.valueOf_strings]
    exact h.gives h.services
  · intro r h
    rw [← ConfigFile.valueOf_integer]
    exact h.gives h.pollInterval
  · intro r h
    rw [← ConfigFile.valueOf_integer]
    exact h.gives h.initialDelay

end Settings.FileReader.Holds

/-! ## The registry -/

/-- A registry in which the settings of a service hold still: names without NUL, in a value
whose size the registry can tell, and two counts, each stored in one of the ways a count
is. -/
structure Registry.Hive.Holds (owner : OwnName) (names : List String) (poll initial : Nat)
    (r : Hive) : Prop where
  plain : ∀ name ∈ names, '\x00' ∉ name.toList
  small : (Data.ofStrings names).bytes.length < Nat.pow 2 32
  services : (r.answers (parametersKey owner) Key.services.name).Always (Data.ofStrings names)
  pollInterval : ∃ d, Data.Writes poll d ∧
    (r.answers (parametersKey owner) Key.pollInterval.name).Always d
  initialDelay : ∃ d, Data.Writes initial d ∧
    (r.answers (parametersKey owner) Key.initialDelay.name).Always d

namespace Registry

theorem nul_not_mem_name (key : Key) : '\x00' ∉ key.name.toList := by
  cases key <;> decide

namespace Hive.Holds

variable {owner : OwnName} {r : Hive} {d : Data}

theorem gives (h : r.Holds owner names poll initial)
    (halways : (r.answers (parametersKey owner) key.name).Always d) :
    ∃ r', WatchPlan.Gives (ofService owner) r key d.decode r' ∧
      r'.Holds owner names poll initial := by
  obtain ⟨r', hread, hkeeps⟩ := read_of_always (nul_not_mem_parametersKey owner)
    (nul_not_mem_name key) halways
  obtain ⟨d₁, hwrites₁, hpoll⟩ := h.pollInterval
  obtain ⟨d₂, hwrites₂, hinitial⟩ := h.initialDelay
  exact ⟨r', hread, h.plain, h.small, hkeeps h.services, ⟨d₁, hwrites₁, hkeeps hpoll⟩,
    ⟨d₂, hwrites₂, hkeeps hinitial⟩⟩

theorem load (h : r.Holds owner names poll initial) (hsome : ∀ name ∈ names, name ≠ "") :
    (WatchPlan.load (ofService owner) r).1 =
      WatchPlan.make names (Duration.ofMillis poll) (Duration.ofMillis initial) := by
  apply load_of_steady h
  · intro r h
    rw [← Data.decode_ofStrings h.plain hsome]
    exact h.gives h.services
  · intro r h
    obtain ⟨d, hwrites, halways⟩ := h.pollInterval
    rw [← Data.decode_of_writes hwrites]
    exact h.gives halways
  · intro r h
    obtain ⟨d, hwrites, halways⟩ := h.initialDelay
    rw [← Data.decode_of_writes hwrites]
    exact h.gives halways

end Hive.Holds

end Registry

/-! ## All of them -/

namespace WatchPlan

/-- A plan's own names and times, in milliseconds, load as the plan from wherever they are
kept, and nothing is logged. -/
structure Reloads (plan : WatchPlan) (poll initial : Nat) : Prop where
  memory : ∀ m : Memory, m.Holds plan.services poll initial →
    (load memory m).1 = pure (.ok plan)
  file : ∀ (parser : ConfigFile.Parser) (path : String) (t : Toml.Entries) (r : FileReader),
    r.Holds parser path t plan.services poll initial →
    (load (ConfigFile.source parser path) r).1 = pure (.ok plan)
  registry : ∀ (owner : OwnName) (r : Registry.Hive), r.Holds owner plan.services poll initial →
    (load (Registry.ofService owner) r).1 = pure (.ok plan)

/-- Every plan there can be loads again from its own settings. -/
theorem reloads_make {listed : List String} {plan : WatchPlan}
    (h : (make listed (Duration.ofMillis poll) (Duration.ofMillis initial)).value = .ok plan) :
    plan.Reloads poll initial := by
  have hmake := make_services h
  have hsome : ∀ name ∈ plan.services, name ≠ "" := by
    rintro name hname rfl
    exact absurd ((listable_make h).nonblank "" hname) (by decide)
  exact
    { memory := fun m hm => hm.load.trans hmake
      file := fun parser path t r hr => hr.load.trans hmake
      registry := fun owner r hr => (hr.load hsome).trans hmake }

/-- A name listed twice is warned of once; the plan is then loaded without a warning from
memory, from a file that was read and from the registry, which stores the two times in
different ways. -/
theorem reloads_repeated_name :
    let poll := Duration.ofMillis 60000
    let initial := Duration.ofMillis 0
    let plan : WatchPlan := ⟨["web", "𝄞"], poll, initial⟩
    let owner : OwnName := ⟨"svc restarter", by decide +kernel, by decide +kernel⟩
    let key := Registry.parametersKey owner
    let m : Memory := ⟨[("SleepDurationMilliseconds", .integer 60000),
      ("InitialSleepDurationMilliseconds", .integer 0),
      ("ServicesExpectedRunning", .textList ["web", "𝄞"])], [], []⟩
    let t : Toml.Entries := [("LogPath", .scalar (.string "log")),
      ("ServicesExpectedRunning", .array [.scalar (.string "web"), .scalar (.string "𝄞")]),
      ("SleepDurationMilliseconds", .scalar (.integer 60000)),
      ("InitialSleepDurationMilliseconds", .scalar (.integer 0))]
    let r : Registry.Hive := ⟨[
      ((key, "ServicesExpectedRunning"),
        [.holds ⟨7, [119, 0, 101, 0, 98, 0, 0, 0, 0x34, 0xD8, 0x1E, 0xDD, 0, 0, 0, 0]⟩]),
      ((key, "SleepDurationMilliseconds"), [.holds ⟨5, [0, 0, 0xEA, 0x60]⟩]),
      ((key, "InitialSleepDurationMilliseconds"), [.holds ⟨11, [0, 0, 0, 0, 0, 0, 0, 0]⟩])], []⟩
    make [" web ", "web", "𝄞"] poll initial =
        ⟨.ok plan, [⟨.settings, .warn, repeatNotice "web"⟩]⟩ ∧
      (load memory m).1 = pure (.ok plan) ∧
      (load (ConfigFile.source Toml.Document.read "/svc.toml") ⟨⟨[], [], []⟩, some t⟩).1 =
        pure (.ok plan) ∧
      (load (Registry.ofService owner) r).1 = pure (.ok plan) := by
  intro poll initial plan owner key m t r
  have hmake : make [" web ", "web", "𝄞"] poll initial =
      ⟨.ok plan, [⟨.settings, .warn, repeatNotice "web"⟩]⟩ := by decide +kernel
  have hreloads : plan.Reloads 60000 0 := reloads_make (congrArg Logged.value hmake)
  have hm : m.Holds plan.services 60000 0 := ⟨rfl, rfl, rfl, rfl⟩
  have ht : Settings.FileReader.Holds Toml.Document.read "/svc.toml" t plan.services 60000 0
      ⟨⟨[], [], []⟩, some t⟩ := ⟨rfl, rfl, rfl, rfl⟩
  have hr : r.Holds owner plan.services 60000 0 :=
    { plain := by decide +kernel
      small := by decide +kernel
      services := ⟨by decide +kernel, by decide +kernel⟩
      pollInterval := ⟨_, .highestFirst (by decide), by decide +kernel, by decide +kernel⟩
      initialDelay := ⟨_, .wide (by decide), by decide +kernel, by decide +kernel⟩ }
  exact ⟨hmake, hreloads.memory m hm, hreloads.file _ _ t _ ht, hreloads.registry owner r hr⟩

end WatchPlan

end ServiceSupervisor
