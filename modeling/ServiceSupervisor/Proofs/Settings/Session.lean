import ServiceSupervisor.Proofs.Settings.Backends
import ServiceSupervisor.Settings.LogTarget
import ServiceSupervisor.Toml.Document

/-!
  Proofs/Settings/Session.lean --- what a reader of a file answers while the file changes.

  As long as the file cannot be read and parsed, every question is refused for what is
  wrong with the file at that moment, and the reader is as it was.  From the first time
  that it can, the answers are those of the table that was read then, also to a question
  that takes several reads with changes of the file between them.
-/

set_option autoImplicit false

namespace ServiceSupervisor.Settings

variable {σ α β : Type}

/-! ## Questions -/

/-- What a source is asked for. -/
inductive Question where
  | value (name : String)
  | plan
  | logTarget
  deriving DecidableEq, Repr

/-- What came of a question, with what was logged on the way to a plan. -/
inductive Response where
  | value (answer : Except Error (Option Value))
  | plan (made : Logged (Except Error WatchPlan))
  | logTarget (found : Except Error (Option LogTarget))
  deriving DecidableEq, Repr

namespace Question

/-- Asks a source in state `s`. -/
def ask (source : Source σ) (s : σ) : Question → Response × σ
  | value name => Prod.map .value id ((source.read name).run s)
  | plan => Prod.map .plan id (WatchPlan.load source s)
  | logTarget => Prod.map .logTarget id ((LogTarget.load source).run s)

/-- The reply that passes an error on; nothing is logged. -/
def refused (e : Error) : Question → Response
  | value _ => .value (.error e)
  | plan => .plan (pure (.error e))
  | logTarget => .logTarget (.error e)

end Question

/-! ## Sources that are refused -/

/-- Every question begins with a read, and if that is refused, so is the question. -/
theorem Question.ask_of_error {source : Source σ} {s s' : σ} {e : Error}
    (h : ∀ name, (source.read name).run s = (.error e, s')) (q : Question) :
    q.ask source s = (q.refused e, s') := by
  cases q with
  | value name => rw [ask, h]; rfl
  | plan =>
    have hparts : (WatchPlan.readParts source).run s = (.error e, s') := by
      rw [WatchPlan.readParts]
      exact run_bind_of_error (h _)
    rw [ask, WatchPlan.load, hparts]
    rfl
  | logTarget =>
    have hload : (LogTarget.load source).run s = (.error e, s') := by
      rw [LogTarget.load]
      exact run_bind_of_error (h _)
    rw [ask, hload]
    rfl

/-! ## Sources that answer as one that never changes -/

section AnswersAs

variable {I K : σ → Prop}

/-- From a state where `I` holds the computation answers as the one without a state does,
and `K` holds then. -/
def AnswersAs (I K : σ → Prop) (x : Reading σ α) (y : Reading Unit α) : Prop :=
  ∀ s, I s → ∃ s', x.run s = ((y.run ()).1, s') ∧ K s'

theorem answersAs_pure (a : α) : AnswersAs K K (pure a) (pure a) := fun s hs => ⟨s, rfl, hs⟩

theorem answersAs_throw (e : Error) :
    AnswersAs K K (throw e : Reading σ α) (throw e) := fun s hs => ⟨s, rfl, hs⟩

/-- What would come after an error does not matter. -/
theorem answersAs_throw_bind {e : Error} {f : α → Reading σ β} {g : α → Reading Unit β} :
    AnswersAs K K (throw e >>= f) (throw e >>= g) := fun s hs => ⟨s, rfl, hs⟩

theorem AnswersAs.bind {x : Reading σ α} {y : Reading Unit α} {f : α → Reading σ β}
    {g : α → Reading Unit β} (hx : AnswersAs I K x y) (hf : ∀ a, AnswersAs K K (f a) (g a)) :
    AnswersAs I K (x >>= f) (y >>= g) := by
  intro s hs
  obtain ⟨s', hrun, hs'⟩ := hx s hs
  cases hanswer : (y.run ()).1 with
  | error e =>
    rw [hanswer] at hrun
    rw [run_bind_of_error hrun, run_bind_of_error (Prod.ext hanswer rfl)]
    exact ⟨s', rfl, hs'⟩
  | ok a =>
    rw [hanswer] at hrun
    rw [run_bind_of_ok hrun, run_bind_of_ok (Prod.ext hanswer rfl)]
    exact hf a s' hs'

variable {source : Source σ} {constant : Source Unit}

theorem answersAs_readMillis
    (hfirst : ∀ name, AnswersAs I K (source.read name) (constant.read name)) (key : Key) :
    AnswersAs I K (WatchPlan.readMillis source key) (WatchPlan.readMillis constant key) := by
  apply (hfirst _).bind
  rintro (_ | v)
  · exact answersAs_pure none
  · cases v with
    | integer n => exact answersAs_pure (some n)
    | _ => exact answersAs_throw _

theorem answersAs_readParts
    (hfirst : ∀ name, AnswersAs I K (source.read name) (constant.read name))
    (hnext : ∀ name, AnswersAs K K (source.read name) (constant.read name)) :
    AnswersAs I K (WatchPlan.readParts source) (WatchPlan.readParts constant) := by
  apply (hfirst _).bind
  rintro (_ | v)
  · exact answersAs_throw_bind
  · cases v with
    | textList names =>
      apply (answersAs_pure names).bind
      intro names
      apply (answersAs_readMillis hnext _).bind
      rintro (_ | poll)
      · exact answersAs_throw_bind
      · apply (answersAs_pure poll).bind
        intro poll
        exact (answersAs_readMillis hnext _).bind fun _ => answersAs_pure _
    | _ => exact answersAs_throw_bind

theorem answersAs_logTarget
    (hfirst : ∀ name, AnswersAs I K (source.read name) (constant.read name))
    (hnext : ∀ name, AnswersAs K K (source.read name) (constant.read name)) :
    AnswersAs I K (LogTarget.load source) (LogTarget.load constant) := by
  apply (hfirst _).bind
  rintro (_ | v)
  · exact answersAs_pure none
  · cases v with
    | text path =>
      apply (hnext _).bind
      rintro (_ | v)
      · exact answersAs_pure _
      · cases v with
        | integer n => exact answersAs_pure _
        | _ => exact answersAs_throw _
    | _ => exact answersAs_throw _

/-- If the first read of a source and each after it are answered as by one that never
changes, so is every question. -/
theorem Question.exists_ask
    (hfirst : ∀ name, AnswersAs I K (source.read name) (constant.read name))
    (hnext : ∀ name, AnswersAs K K (source.read name) (constant.read name)) {s : σ} (hs : I s)
    (q : Question) : ∃ s', q.ask source s = ((q.ask constant ()).1, s') ∧ K s' := by
  cases q with
  | value name =>
    obtain ⟨s', hrun, hs'⟩ := hfirst name s hs
    exact ⟨s', by rw [ask, hrun]; rfl, hs'⟩
  | plan =>
    obtain ⟨s', hrun, hs'⟩ := answersAs_readParts hfirst hnext s hs
    refine ⟨s', ?_, hs'⟩
    cases hparts : (WatchPlan.readParts constant).run () with
    | mk parts u =>
      rw [hparts] at hrun
      rw [ask, ask, WatchPlan.load, WatchPlan.load, hrun, hparts]
      cases parts <;> rfl
  | logTarget =>
    obtain ⟨s', hrun, hs'⟩ := answersAs_logTarget hfirst hnext s hs
    exact ⟨s', by rw [ask, hrun]; rfl, hs'⟩

end AnswersAs

/-! ## The file at one moment -/

/-- What is wrong with the file as it is: it cannot be read, or its text cannot be
parsed. -/
inductive ConfigFile.Faulty (parser : ConfigFile.Parser) (path : String) (tree : Tree) :
    Error → Prop
  | unread {e : FileError} (h : tree.readText path = .error e) :
    Faulty parser path tree (.unreadable path (.file e))
  | unparsed {text reason : String} (h : tree.readText path = .ok text)
    (hparse : parser text = .error reason) :
    Faulty parser path tree (.unreadable path (.syntaxFault reason))

/-- The file as it is has a text that describes the table `t`. -/
def ConfigFile.Contains (parser : ConfigFile.Parser) (path : String) (tree : Tree)
    (t : Toml.Entries) : Prop :=
  ∃ text, tree.readText path = .ok text ∧ parser text = .ok t

open ConfigFile (Faulty Contains)

variable {parser : ConfigFile.Parser} {path : String} {tree : Tree} {t : Toml.Entries}
  {e : Error}

theorem ConfigFile.parse_eq_error_iff :
    parse parser path tree = .error e ↔ Faulty parser path tree e := by
  constructor
  · intro h
    rw [parse] at h
    split at h
    · next hread =>
      cases h
      exact .unread hread
    · next text hread =>
      split at h
      · next hparse =>
        cases h
        exact .unparsed hread hparse
      · cases h
  · rintro (hread | ⟨hread, hparse⟩)
    · rw [parse, hread]
    · simp only [parse, hread, hparse]

theorem ConfigFile.parse_eq_ok_iff :
    parse parser path tree = .ok t ↔ Contains parser path tree t := by
  constructor
  · intro h
    rw [parse] at h
    split at h
    · cases h
    · next text hread =>
      split at h
      · cases h
      · next hparse =>
        cases h
        exact ⟨text, hread, hparse⟩
  · rintro ⟨text, hread, hparse⟩
    simp only [parse, hread, hparse]

/-- The file is either faulty or has a table. -/
theorem ConfigFile.faulty_or_contains (parser : Parser) (path : String) (tree : Tree) :
    (∃ e, Faulty parser path tree e) ∨ ∃ t, Contains parser path tree t := by
  cases h : parse parser path tree with
  | error e => exact Or.inl ⟨e, parse_eq_error_iff.mp h⟩
  | ok t => exact Or.inr ⟨t, parse_eq_ok_iff.mp h⟩

/-! ## A reader while the file changes -/

/-- A reader, and what the files become after each of its next reads. -/
structure Shifting where
  reader : FileReader
  coming : List Tree
  deriving Repr

/-- The next change of the files, if one is to come. -/
def Shifting.turn (s : Shifting) : Shifting :=
  match s.coming with
  | [] => s
  | tree :: coming => ⟨{ s.reader with tree }, coming⟩

@[simp] theorem Shifting.table_turn (s : Shifting) : s.turn.reader.table = s.reader.table := by
  rw [turn]
  split <;> rfl

/-- The source that answers from the file at `path` while it changes. -/
def shifting (parser : ConfigFile.Parser) (path : String) : Source Shifting where
  location := path
  read name := fun s =>
    let (answer, reader) := ((ConfigFile.source parser path).read name).run s.reader
    (answer, Shifting.turn { s with reader })

/-- The source that answers from one table for good. -/
def fixed (path : String) (t : Toml.Entries) : Source Unit where
  location := path
  read name := pure ((t.get? name).map ConfigFile.valueOf)

/-- The next read is answered from the table: it was read before, or is in the file now. -/
def FileReader.Finds (parser : ConfigFile.Parser) (path : String) (t : Toml.Entries)
    (r : FileReader) : Prop :=
  r.table = some t ∨ r.table = none ∧ Contains parser path r.tree t

theorem FileReader.Finds.read {r : FileReader} (h : r.Finds parser path t) (name : String) :
    ((ConfigFile.source parser path).read name).run r =
      (.ok ((t.get? name).map ConfigFile.valueOf), { r with table := some t }) := by
  have htable : (ConfigFile.table parser path).run r = (.ok t, { r with table := some t }) := by
    obtain ⟨tree, table⟩ := r
    rcases h with h | ⟨h, hcontains⟩
    · cases h
      rfl
    · cases h
      simp only [ExceptT.run, ConfigFile.table, ConfigFile.parse_eq_ok_iff.mpr hcontains]
  simp only [ConfigFile.source]
  rw [run_bind_of_ok htable]
  rfl

theorem FileReader.read_of_faulty {r : FileReader} (htable : r.table = none)
    (h : Faulty parser path r.tree e) (name : String) :
    ((ConfigFile.source parser path).read name).run r = (.error e, r) := by
  have hrun : (ConfigFile.table parser path).run r = (.error e, r) := by
    simp only [ExceptT.run, ConfigFile.table, htable, ConfigFile.parse_eq_error_iff.mpr h]
  simp only [ConfigFile.source]
  rw [run_bind_of_error hrun]

/-- However the file changes after it, a read that finds the table keeps it. -/
theorem answersAs_shifting (name : String) :
    AnswersAs (fun s => s.reader.Finds parser path t) (fun s => s.reader.table = some t)
      ((shifting parser path).read name) ((fixed path t).read name) := by
  intro s hs
  refine ⟨Shifting.turn ⟨{ s.reader with table := some t }, s.coming⟩, ?_, by simp⟩
  simp only [shifting, ExceptT.run]
  have hread := hs.read name
  rw [ExceptT.run] at hread
  rw [hread]
  rfl

/-- A question that finds the table is answered from it, whatever the files become
meanwhile, and the table is kept. -/
theorem Question.ask_of_finds {s : Shifting} (h : s.reader.Finds parser path t) (q : Question) :
    ∃ s', q.ask (shifting parser path) s = ((q.ask (fixed path t) ()).1, s') ∧
      s'.reader.table = some t :=
  q.exists_ask answersAs_shifting (fun name s hs => answersAs_shifting name s (Or.inl hs)) h

/-- A question that meets a faulty file is refused, and nothing is kept. -/
theorem Question.ask_of_faulty {s : Shifting} (htable : s.reader.table = none)
    (h : Faulty parser path s.reader.tree e) (q : Question) :
    ∃ s', q.ask (shifting parser path) s = (q.refused e, s') ∧ s'.reader.table = none := by
  refine ⟨s.turn, q.ask_of_error fun name => ?_, by simp [htable]⟩
  simp only [shifting, ExceptT.run]
  have hread := FileReader.read_of_faulty htable h name
  rw [ExceptT.run] at hread
  rw [hread]

/-! ## Sessions -/

/-- What may happen: files are written or removed, or the reader is asked a question, with
what the files become after each read that the question takes. -/
inductive Happening where
  | change (tree : Tree)
  | ask (question : Question) (meanwhile : List Tree)
  deriving Repr

/-- A question, the files as they were when it was asked, and the reply to it. -/
structure Visit where
  question : Question
  tree : Tree
  reply : Response
  deriving Repr

/-- The visits of a session, and the reader after it. -/
def session (parser : ConfigFile.Parser) (path : String) :
    List Happening → FileReader → List Visit × FileReader
  | [], r => ([], r)
  | .change tree :: happenings, r => session parser path happenings { r with tree }
  | .ask question meanwhile :: happenings, r =>
    let (reply, s) := question.ask (shifting parser path) ⟨r, meanwhile⟩
    let (visits, r') := session parser path happenings s.reader
    (⟨question, r.tree, reply⟩ :: visits, r')

/-- How the visits to a file go, and the table that is kept after them: refused for what is
wrong with the file at the time, until there is a table in it; from then on answered from
that table. -/
inductive Settles (parser : ConfigFile.Parser) (path : String) :
    List Visit → Option Toml.Entries → Prop
  | nil : Settles parser path [] none
  | refused {v : Visit} {visits : List Visit} {kept : Option Toml.Entries} {e : Error}
    (hfaulty : Faulty parser path v.tree e) (hreply : v.reply = v.question.refused e)
    (h : Settles parser path visits kept) : Settles parser path (v :: visits) kept
  | read {v : Visit} {visits : List Visit} {t : Toml.Entries}
    (hcontains : Contains parser path v.tree t)
    (hreplies : ∀ w ∈ v :: visits, w.reply = (w.question.ask (fixed path t) ()).1) :
    Settles parser path (v :: visits) (some t)

/-- A table that is kept answers every question there may be. -/
theorem session_of_table (parser : ConfigFile.Parser) (path : String) {r : FileReader}
    (h : r.table = some t) (happenings : List Happening) :
    (∀ v ∈ (session parser path happenings r).1, v.reply = (v.question.ask (fixed path t) ()).1) ∧
      (session parser path happenings r).2.table = some t := by
  induction happenings generalizing r with
  | nil => exact ⟨by simp [session], h⟩
  | cons happening happenings ih =>
    cases happening with
    | change tree => exact ih (r := { r with tree }) h
    | ask q meanwhile =>
      have hfinds : r.Finds parser path t := Or.inl h
      obtain ⟨s', hask, hs'⟩ := q.ask_of_finds (s := ⟨r, meanwhile⟩) hfinds
      obtain ⟨hrest, hkept⟩ := ih hs'
      simp only [session, hask]
      refine ⟨?_, hkept⟩
      intro v hv
      rcases List.mem_cons.mp hv with rfl | hv
      · rfl
      · exact hrest v hv

/-- However a file is parsed, and however it changes, between the questions to its reader and
within them: it is read once. -/
theorem settles_session (parser : ConfigFile.Parser) (path : String) (tree : Tree)
    (happenings : List Happening) :
    Settles parser path (session parser path happenings ⟨tree, none⟩).1
      (session parser path happenings ⟨tree, none⟩).2.table := by
  suffices h : ∀ r : FileReader, r.table = none →
      Settles parser path (session parser path happenings r).1
        (session parser path happenings r).2.table from h _ rfl
  induction happenings with
  | nil =>
    intro r hr
    rw [session, hr]
    exact .nil
  | cons happening happenings ih =>
    intro r hr
    cases happening with
    | change tree => exact ih { r with tree } hr
    | ask q meanwhile =>
      rcases ConfigFile.faulty_or_contains parser path r.tree with ⟨e, hfaulty⟩ | ⟨t, hcontains⟩
      · obtain ⟨s', hask, hs'⟩ := q.ask_of_faulty (s := ⟨r, meanwhile⟩) hr hfaulty
        simp only [session, hask]
        exact .refused hfaulty rfl (ih s'.reader hs')
      · have hfinds : r.Finds parser path t := Or.inr ⟨hr, hcontains⟩
        obtain ⟨s', hask, hs'⟩ := q.ask_of_finds (s := ⟨r, meanwhile⟩) hfinds
        obtain ⟨hrest, hkept⟩ := session_of_table parser path hs' happenings
        simp only [session, hask, hkept]
        refine .read hcontains fun w hw => ?_
        rcases List.mem_cons.mp hw with rfl | hw
        · rfl
        · exact hrest w hw

/-- A file that appears after the first question, is written anew between two reads of the
second and is gone before the third. -/
example :
    let holding (text : String) : Tree :=
      ⟨[(["k.toml"], .file (Text.Utf8.encode text))], [], []⟩
    let empty : Tree := ⟨[], [], []⟩
    (session Toml.Document.read "k.toml"
      [.ask .logTarget [], .change (holding "LogPath = 'a'\nLogLevel = 3"),
        .ask .logTarget [holding "LogLevel = 1", empty], .ask (.value "LogLevel") []]
      ⟨empty, none⟩).1.map Visit.reply =
    [.logTarget (.error (.unreadable "k.toml" (.file .missing))),
      .logTarget (.ok (some ⟨"a", .info⟩)), .value (.ok (some (.integer 3)))] := by
  decide +kernel

end ServiceSupervisor.Settings
