import ServiceSupervisor.Proofs.Text.Split
import ServiceSupervisor.Proofs.Text.Words
import ServiceSupervisor.Systemd.Unit

/-!
  Proofs/Systemd/UnitText.lean --- a unit read line by line, and the units that launch what
  they were written for.

  What is written into a unit is not escaped.  So a unit reads as it was meant, and runs
  what it was meant to run, just for names and paths that need no escapes.
-/

set_option autoImplicit false

namespace ServiceSupervisor.Systemd

/-! ## Reading a unit -/

/-- The characters that systemd takes for blanks. -/
def isSeparator (c : Char) : Bool := c == ' ' || c == '\t' || c == '\n' || c == '\r'

/-- What a line of a unit says. -/
inductive Line where
  | blank
  | header (name : String)
  | directive (key value : String)
  deriving DecidableEq, Repr

/-- A header without the bracket it begins with. -/
def Line.header? (cs : List Char) : Option Line :=
  if cs.getLast? = some ']' then some (.header (String.ofList cs.dropLast)) else none

/-- A directive; its key ends at the first sign of equality. -/
def Line.directive? (cs : List Char) : Option Line :=
  match cs.dropWhile (· ≠ '=') with
  | [] => none
  | _ :: value => some (.directive (String.ofList (cs.takeWhile (· ≠ '='))) (String.ofList value))

/-- Reads a line, if it is one of a unit. -/
def Line.read? (cs : List Char) : Option Line :=
  if cs.all isSeparator then some .blank
  else if cs.head? = some '[' then Line.header? cs.tail
  else Line.directive? cs

/-- The directives before the first header, and the sections from there on. -/
def gather : List Line → List (String × String) × List Section
  | [] => ([], [])
  | .blank :: rest => gather rest
  | .directive key value :: rest => ((key, value) :: (gather rest).1, (gather rest).2)
  | .header name :: rest => ([], ⟨name, (gather rest).1⟩ :: (gather rest).2)

/-- The sections of a unit; every line must be one of a unit, and every directive in a
section. -/
def readUnit (text : String) : Option (List Section) :=
  ((Text.split '\n' text.toList).mapM Line.read?).bind fun lines =>
    if (gather lines).1 = [] then some (gather lines).2 else none

variable {cs : List Char} {l : Line} {ls : List Line} {s : Section} {ss : List Section}
  {name key value text : String}

/-! ## What was written is read -/

/-- A line as it is written. -/
def Line.chars : Line → List Char
  | blank => []
  | header name => '[' :: (name.toList ++ [']'])
  | directive key value => key.toList ++ '=' :: value.toList

/-- A text that can be the key of a directive. -/
def isKey (key : String) : Bool :=
  key != "" && key.toList.all fun c => !isSeparator c && c != '=' && c != '['

/-- A section that is written so that it can be read. -/
structure Section.Legible (s : Section) : Prop where
  name : '\n' ∉ s.name.toList
  keys : (s.directives.map (·.1)).all isKey = true
  values : ∀ d ∈ s.directives, '\n' ∉ d.2.toList

theorem Line.read?_header (name : String) :
    Line.read? (Line.header name).chars = some (.header name) := by
  have hbracket : isSeparator '[' = false := by decide
  simp [Line.read?, Line.header?, Line.chars, hbracket]

theorem isKey_iff : isKey key = true ↔
    key ≠ "" ∧ ∀ c ∈ key.toList, isSeparator c = false ∧ c ≠ '=' ∧ c ≠ '[' := by
  simp [isKey, and_assoc]

theorem Line.read?_directive (hkey : isKey key = true) :
    Line.read? (Line.directive key value).chars = some (.directive key value) := by
  obtain ⟨hsome, hchars⟩ := isKey_iff.mp hkey
  have hends : ∀ c ∈ key.toList, decide (c ≠ '=') = true := fun c hc =>
    decide_eq_true (hchars c hc).2.1
  have htake : (key.toList ++ '=' :: value.toList).takeWhile (fun c => decide (c ≠ '=')) =
      key.toList := by
    rw [List.takeWhile_append_of_pos hends, List.takeWhile_cons_of_neg (by simp), List.append_nil]
  have hdrop : (key.toList ++ '=' :: value.toList).dropWhile (fun c => decide (c ≠ '=')) =
      '=' :: value.toList := by
    rw [List.dropWhile_append_of_pos hends, List.dropWhile_cons_of_neg (by simp)]
  have hdirective : Line.directive? (key.toList ++ '=' :: value.toList) =
      some (.directive key value) := by
    rw [Line.directive?, htake, hdrop, String.ofList_toList]
    simp
  -- what the key begins with tells the line from a blank one and from a header
  obtain ⟨c, rest, hlist⟩ := List.exists_cons_of_ne_nil (mt String.toList_eq_nil_iff.mp hsome)
  obtain ⟨hsep, _, hbracket⟩ := hchars c (hlist ▸ List.mem_cons_self)
  rw [Line.chars, Line.read?, hdirective, hlist]
  simp [hsep, hbracket]

/-- The lines of a section. -/
def Section.lines (s : Section) : List Line :=
  .header s.name :: s.directives.map fun d => .directive d.1 d.2

/-- The lines of a unit: a blank one between sections. -/
def unitLines : List Section → List Line
  | [] => []
  | [s] => s.lines
  | s :: s' :: ss => s.lines ++ .blank :: unitLines (s' :: ss)

theorem Section.Legible.read (h : s.Legible) (hl : l ∈ s.lines) :
    '\n' ∉ l.chars ∧ Line.read? l.chars = some l := by
  rcases List.mem_cons.mp hl with rfl | hl
  · refine ⟨?_, Line.read?_header s.name⟩
    simp [Line.chars, h.name]
  · obtain ⟨d, hd, rfl⟩ := List.mem_map.mp hl
    have hkey : isKey d.1 = true := List.all_eq_true.mp h.keys d.1 (List.mem_map_of_mem hd)
    refine ⟨?_, Line.read?_directive hkey⟩
    have hnewline : '\n' ∉ d.1.toList := by
      intro hmem
      exact absurd ((isKey_iff.mp hkey).2 '\n' hmem).1 (by decide)
    simp [Line.chars, hnewline, h.values d hd]

theorem Section.toList_text (s : Section) :
    s.text.toList = s.lines.flatMap fun l => l.chars ++ ['\n'] := by
  simp [Section.text, Section.lines, Line.chars, String.toList_join, List.flatMap_map]

theorem toList_intercalate_text (ss : List Section) :
    (String.intercalate "\n" (ss.map Section.text)).toList =
      (unitLines ss).flatMap fun l => l.chars ++ ['\n'] := by
  induction ss using unitLines.induct with
  | case1 => rfl
  | case2 s => simp [unitLines, Section.toList_text]
  | case3 s s' ss ih =>
    rw [List.map_cons] at ih
    rw [List.map_cons, List.map_cons, String.intercalate_cons_cons, String.toList_append,
      String.toList_append, ih, unitLines, List.flatMap_append, Section.toList_text]
    simp [Line.chars]

theorem gather_append_lines (s : Section) (rest : List Line) :
    gather (s.lines ++ rest) =
      ([], ⟨s.name, s.directives ++ (gather rest).1⟩ :: (gather rest).2) := by
  have hdirectives : ∀ ds : List (String × String),
      gather (ds.map (fun d => Line.directive d.1 d.2) ++ rest) =
        (ds ++ (gather rest).1, (gather rest).2) := by
    intro ds
    induction ds with
    | nil => rfl
    | cons d ds ih => simp only [List.map_cons, List.cons_append, gather, ih]
  simp only [Section.lines, List.cons_append, gather, hdirectives]

theorem gather_unitLines (ss : List Section) : gather (unitLines ss ++ [.blank]) = ([], ss) := by
  induction ss using unitLines.induct with
  | case1 => rfl
  | case2 s =>
    rw [unitLines, gather_append_lines]
    simp [gather]
  | case3 s s' ss ih =>
    rw [unitLines, List.append_assoc, gather_append_lines, List.cons_append, gather, ih]
    simp

theorem read_unitLines (h : ∀ s ∈ ss, s.Legible) (hl : l ∈ unitLines ss) :
    '\n' ∉ l.chars ∧ Line.read? l.chars = some l := by
  induction ss using unitLines.induct with
  | case1 => cases hl
  | case2 s => exact (h s List.mem_cons_self).read hl
  | case3 s s' ss ih =>
    rcases List.mem_append.mp hl with hl | hl
    · exact (h s List.mem_cons_self).read hl
    · rcases List.mem_cons.mp hl with rfl | hl
      · exact ⟨by simp [Line.chars], rfl⟩
      · exact ih (fun s hs => h s (List.mem_cons_of_mem _ hs)) hl

/-- A unit of legible sections is read as what was written. -/
theorem readUnit_intercalate (h : ∀ s ∈ ss, s.Legible) :
    readUnit (String.intercalate "\n" (ss.map Section.text)) = some ss := by
  have hnewline : ∀ part ∈ (unitLines ss).map Line.chars, '\n' ∉ part := by
    intro part hpart
    obtain ⟨l, hl, rfl⟩ := List.mem_map.mp hpart
    exact (read_unitLines h hl).1
  have hsplit : Text.split '\n' (String.intercalate "\n" (ss.map Section.text)).toList =
      (unitLines ss ++ [Line.blank]).map Line.chars := by
    have hparts := Text.split_flatMap_append hnewline []
    rw [List.append_nil, List.flatMap_map] at hparts
    rw [toList_intercalate_text, hparts, List.map_append]
    rfl
  have hread : ∀ l ∈ unitLines ss ++ [Line.blank], Line.read? l.chars = some l := by
    intro l hl
    rcases List.mem_append.mp hl with hl | hl
    · exact (read_unitLines h hl).2
    · rw [List.mem_singleton.mp hl]
      rfl
  rw [readUnit, hsplit, Text.mapM_map_eq_some hread, Option.bind_some, gather_unitLines, if_pos rfl]

/-! ## What is read was on one line -/

theorem exists_of_mapM {css : List (List Char)} (h : css.mapM Line.read? = some ls)
    (hl : l ∈ ls) : ∃ cs ∈ css, Line.read? cs = some l := by
  induction css generalizing ls with
  | nil =>
    cases h
    cases hl
  | cons cs css ih =>
    rw [List.mapM_cons] at h
    obtain ⟨first, hfirst, h⟩ := Option.bind_eq_some_iff.mp h
    obtain ⟨others, hothers, h⟩ := Option.bind_eq_some_iff.mp h
    cases h
    rcases List.mem_cons.mp hl with rfl | hl
    · exact ⟨cs, List.mem_cons_self, hfirst⟩
    · obtain ⟨cs', hcs', hread⟩ := ih hothers hl
      exact ⟨cs', List.mem_cons_of_mem _ hcs', hread⟩

theorem subset_of_read? (h : Line.read? cs = some (.directive key value)) : value.toList ⊆ cs := by
  rw [Line.read?] at h
  split at h
  · cases h
  · split at h
    · rw [Line.header?] at h
      split at h <;> cases h
    · rw [Line.directive?] at h
      split at h
      · cases h
      · next c rest hdrop =>
        cases h
        rw [String.toList_ofList]
        intro c' hc'
        have hmem : c' ∈ cs.dropWhile (fun c => decide (c ≠ '=')) := by
          rw [hdrop]
          exact List.mem_cons_of_mem _ hc'
        exact (List.dropWhile_sublist _).subset hmem

theorem mem_of_mem_gather {d : String × String}
    (h : d ∈ (gather ls).1 ∨ ∃ s ∈ (gather ls).2, d ∈ s.directives) :
    Line.directive d.1 d.2 ∈ ls := by
  induction ls with
  | nil => simp [gather] at h
  | cons l ls ih =>
    cases l with
    | blank => exact List.mem_cons_of_mem _ (ih h)
    | header name =>
      refine List.mem_cons_of_mem _ (ih ?_)
      simpa [gather] using h
    | directive key value =>
      simp only [gather, List.mem_cons, or_assoc] at h
      rcases h with rfl | h
      · exact List.mem_cons_self
      · exact List.mem_cons_of_mem _ (ih h)

/-- No value of a unit holds a line feed. -/
theorem newline_not_mem (h : readUnit text = some ss) (hs : s ∈ ss) {d : String × String}
    (hd : d ∈ s.directives) : '\n' ∉ d.2.toList := by
  rw [readUnit] at h
  obtain ⟨ls, hlines, h⟩ := Option.bind_eq_some_iff.mp h
  split at h
  · cases h
    obtain ⟨cs, hcs, hread⟩ := exists_of_mapM hlines (mem_of_mem_gather (.inr ⟨s, hs, hd⟩))
    exact fun hmem => Text.not_mem_of_mem_split hcs (subset_of_read? hread hmem)
  · cases h

/-! ## Units that launch what they were written for -/

/-- The value of a directive of a unit. -/
def value? (sectionName key : String) (ss : List Section) : Option String :=
  (ss.find? fun s => s.name = sectionName).bind fun s =>
    (s.directives.find? fun d => d.1 = key).map (·.2)

namespace UnitSpec

/-- The sections that a unit should have, with the keys of their directives. -/
def shape (u : UnitSpec) : List (String × List String) :=
  [("Unit", "Description" :: (match u.scope with | .system => ["After"] | .user => [])),
    ("Service", ["Type", "ExecStart", "Restart", "RestartSec"]),
    ("Install", ["WantedBy"])]

/-- A unit that reads as it should, and whose command is cut by systemd into the words that
launch the program for the service with its settings. -/
structure Launches (u : UnitSpec) : Prop where
  shape : (readUnit u.text).map (·.map fun s => (s.name, s.directives.map (·.1))) = some u.shape
  command : ((readUnit u.text).bind (value? "Service" "ExecStart")).bind
    (Text.words? isSeparator) = some (Text.launchWords u.program u.name.text u.config)

/-- What needs no escapes in a unit: a name without quotes and blanks, and paths without quotes
and line feeds. -/
structure Plain (u : UnitSpec) : Prop where
  name : ∀ c ∈ u.name.text.toList, c ≠ '"' ∧ isSeparator c = false
  program : '"' ∉ u.program.toList ∧ '\n' ∉ u.program.toList
  config : ∀ c ∈ u.config, '"' ∉ c.toList ∧ '\n' ∉ c.toList

variable {u : UnitSpec}

theorem newline_not_mem_target : '\n' ∉ u.target.toList := by
  rw [target]
  split <;> decide

/-- Without line feeds a unit is read as it was written. -/
theorem readUnit_text (hname : '\n' ∉ u.name.text.toList) (hprogram : '\n' ∉ u.program.toList)
    (hconfig : ∀ c ∈ u.config, '\n' ∉ c.toList) : readUnit u.text = some u.sections := by
  have hcommand : '\n' ∉ u.command.toList := by
    rw [command]
    cases hc : u.config with
    | none => simp [hname, hprogram]
    | some c => simp [hname, hprogram, hconfig c hc]
  have hkeys : ∀ key ∈ ["Description", "After", "Type", "NotifyAccess", "ExecStart", "Restart",
      "RestartSec", "WantedBy"], isKey key = true := by decide
  have hunit : u.unitSection.Legible :=
    { name := show '\n' ∉ "Unit".toList by decide
      keys := by
        rw [unitSection]
        cases u.scope <;> simp [hkeys]
      values := by
        rw [unitSection]
        cases u.scope <;> simp [hname, newline_not_mem_target] }
  have hservice : u.serviceSection.Legible :=
    { name := show '\n' ∉ "Service".toList by decide
      keys := by
        rw [serviceSection]
        cases u.notify <;> simp [hkeys]
      values := by
        rw [serviceSection]
        cases u.notify <;> simp [hcommand] }
  have hinstall : u.installSection.Legible :=
    { name := show '\n' ∉ "Install".toList by decide
      keys := by simp [installSection, hkeys]
      values := by simp [installSection, newline_not_mem_target] }
  apply readUnit_intercalate
  simp [sections, hunit, hservice, hinstall]

/-- What is written for a system and for a user. -/
example :
    let name : OwnName := ⟨"svc", by decide, by decide⟩
    UnitSpec.text ⟨name, "/bin/keep", some "/etc/k.toml", .system, false⟩ =
        "[Unit]\nDescription=Keeps configured services running (svc)\n" ++
        "After=multi-user.target\n\n" ++
        "[Service]\nType=simple\nExecStart=\"/bin/keep\" service svc --config \"/etc/k.toml\"\n" ++
        "Restart=on-failure\nRestartSec=5s\n\n[Install]\nWantedBy=multi-user.target\n" ∧
      UnitSpec.text ⟨name, "/bin/keep", none, .user, true⟩ =
        "[Unit]\nDescription=Keeps configured services running (svc)\n\n" ++
        "[Service]\nType=notify\nNotifyAccess=main\nExecStart=\"/bin/keep\" service svc\n" ++
        "Restart=on-failure\nRestartSec=5s\n\n[Install]\nWantedBy=default.target\n" := by
  decide +kernel

/-- Neither a quote nor a line feed can be in what a unit launches. -/
theorem Launches.not_mem (h : u.Launches) {x : String}
    (hx : x ∈ Text.launchWords u.program u.name.text u.config) :
    '"' ∉ x.toList ∧ '\n' ∉ x.toList := by
  obtain ⟨value, hvalue, hwords⟩ := Option.bind_eq_some_iff.mp h.command
  obtain ⟨ss, hread, hfound⟩ := Option.bind_eq_some_iff.mp hvalue
  obtain ⟨s, hs, hfound⟩ := Option.bind_eq_some_iff.mp hfound
  obtain ⟨d, hd, rfl⟩ := Option.map_eq_some_iff.mp hfound
  have hnewline : '\n' ∉ d.2.toList :=
    newline_not_mem hread (List.mem_of_find?_eq_some hs) (List.mem_of_find?_eq_some hd)
  obtain ⟨hquote, hsub⟩ := Text.not_mem_of_words? hwords x hx
  exact ⟨hquote, fun hmem => hnewline (hsub _ hmem)⟩

/-- Where no line feed gets in the way, only the words of the command matter. -/
theorem launches_iff_words (hnotify : u.notify = false) (hname : '\n' ∉ u.name.text.toList)
    (hprogram : '\n' ∉ u.program.toList) (hconfig : ∀ c ∈ u.config, '\n' ∉ c.toList) :
    u.Launches ↔ Text.words? isSeparator u.command =
      some (Text.launchWords u.program u.name.text u.config) := by
  have hread := readUnit_text hname hprogram hconfig
  obtain ⟨name, program, config, scope, notify⟩ := u
  cases hnotify
  have hvalue : value? "Service" "ExecStart" (sections ⟨name, program, config, scope, false⟩) =
      some (command ⟨name, program, config, scope, false⟩) := rfl
  constructor
  · intro h
    have hcommand := h.command
    rw [hread, Option.bind_some, hvalue, Option.bind_some] at hcommand
    exact hcommand
  · intro h
    refine ⟨?_, ?_⟩
    · rw [hread]
      cases scope <;> rfl
    · rw [hread, Option.bind_some, hvalue, Option.bind_some]
      exact h

/-- A unit launches what it was written for just if nothing in it needs an escape. -/
theorem launches_iff_plain (name : OwnName) (program : String) (config : Option String)
    (scope : Scope) :
    Launches ⟨name, program, config, scope, false⟩ ↔
      Plain ⟨name, program, config, scope, false⟩ := by
  have hname : name.text ≠ "" := by
    intro hempty
    have hvisible := name.visible
    rw [hempty] at hvisible
    cases hvisible
  have hwords : Text.words? isSeparator (command ⟨name, program, config, scope, false⟩) =
      some (Text.launchWords program name.text config) ↔ _ :=
    Text.words?_launch_iff rfl (by decide) hname
  constructor
  · intro h
    have hprogram := h.not_mem (x := program) (by simp [Text.launchWords])
    have hname' := h.not_mem (x := name.text) (by simp [Text.launchWords])
    have hconfig : ∀ c ∈ config, '"' ∉ c.toList ∧ '\n' ∉ c.toList := by
      rintro c rfl
      exact h.not_mem (by simp [Text.launchWords])
    have hcommand := (launches_iff_words rfl hname'.2 hprogram.2 fun c hc => (hconfig c hc).2).mp h
    exact ⟨(hwords.mp hcommand).2.1, hprogram, hconfig⟩
  · intro h
    have hnewline : '\n' ∉ name.text.toList := by
      intro hmem
      exact absurd (h.name '\n' hmem).2 (by decide)
    have hcommand := hwords.mpr ⟨h.program.1, h.name, fun c hc => (h.config c hc).1⟩
    exact (launches_iff_words rfl hnewline h.program.2 fun c hc => (h.config c hc).2).mpr hcommand

/-- A service whose name holds a blank is launched for the first part of it. -/
theorem not_launches_blank_in_name :
    let u : UnitSpec := ⟨⟨"my svc", by decide +kernel, by decide +kernel⟩,
      "/usr/bin/svcrestarter", none, .system, false⟩
    ¬ u.Launches ∧ Text.words? isSeparator u.command =
      some ["/usr/bin/svcrestarter", "service", "my", "svc"] := by
  intro u
  have hwords : Text.words? isSeparator u.command =
      some ["/usr/bin/svcrestarter", "service", "my", "svc"] := by decide +kernel
  refine ⟨?_, hwords⟩
  rw [launches_iff_words rfl (by decide +kernel) (by decide +kernel) (by simp [u]), hwords]
  decide +kernel

end UnitSpec

end ServiceSupervisor.Systemd
