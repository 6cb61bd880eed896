import ServiceSupervisor.Settings.OwnName
import ServiceSupervisor.Environment

/-!
  Systemd/Unit.lean --- the unit that makes systemd run the supervisor.

  A unit is a list of sections with directives.  It is written with one line for
  each section's name and for each directive, and a blank line between sections.
-/

set_option autoImplicit false

namespace ServiceSupervisor.Systemd

/-- A section of a unit: its name and its directives, in order. -/
structure Section where
  name : String
  directives : List (String × String)
  deriving DecidableEq, Repr, Inhabited

/-- The lines of a section, each with its end. -/
def Section.text (s : Section) : String :=
  "[" ++ s.name ++ "]\n" ++ String.join (s.directives.map fun d => d.1 ++ "=" ++ d.2 ++ "\n")

/-- What the unit of a supervisor depends on. -/
structure UnitSpec where
  name : OwnName
  /-- the program that systemd runs -/
  program : String
  /-- the file with the settings, if one is named -/
  config : Option String
  scope : Scope
  /-- whether the program tells systemd when it is ready -/
  notify : Bool
  deriving DecidableEq, Repr

/-- The name of the unit, which is that of its file too. -/
def unitName (name : OwnName) : String := name.text ++ ".service"

/-- The folder that systemd reads the units of a scope from; without a folder for
settings, the user has none. -/
def unitFolder? (env : Environment) : Option String :=
  match env.scope with
  | .system => some "/etc/systemd/system"
  | .user => env.configFolder?.map fun c => Path.join (Path.join c "systemd") "user"

namespace UnitSpec

/-- The command that systemd runs. -/
def command (u : UnitSpec) : String :=
  "\"" ++ u.program ++ "\" service " ++ u.name.text ++
    (u.config.elim "" fun c => " --config \"" ++ c ++ "\"")

/-- The target that the unit belongs to. -/
def target (u : UnitSpec) : String :=
  match u.scope with
  | .system => "multi-user.target"
  | .user => "default.target"

/-- What the unit is, and what it comes after. -/
def unitSection (u : UnitSpec) : Section :=
  ⟨"Unit",
    ("Description", "Keeps configured services running (" ++ u.name.text ++ ")") ::
      (match u.scope with
       | .system => [("After", u.target)]
       | .user => [])⟩

/-- What is run, and when again. -/
def serviceSection (u : UnitSpec) : Section :=
  ⟨"Service",
    (if u.notify then [("Type", "notify"), ("NotifyAccess", "main")] else [("Type", "simple")]) ++
      [("ExecStart", u.command), ("Restart", "on-failure"), ("RestartSec", "5s")]⟩

/-- What wants the unit. -/
def installSection (u : UnitSpec) : Section := ⟨"Install", [("WantedBy", u.target)]⟩

/-- The sections of the unit, in the order in which they are written. -/
def sections (u : UnitSpec) : List Section :=
  [u.unitSection, u.serviceSection, u.installSection]

/-- The unit as it is written. -/
def text (u : UnitSpec) : String := String.intercalate "\n" (u.sections.map Section.text)

end UnitSpec

end ServiceSupervisor.Systemd
