import ServiceSupervisor.Service.Manager
import ServiceSupervisor.Text.Blank
import ServiceSupervisor.Text.Quoted
import ServiceSupervisor.Text.Split

/-!
  Systemd/Show.lean --- the status of a unit, read from its properties.

  Properties are written as lines of the form `name=value`.  Two of them matter:
  whether the unit is loaded, and what it is doing.  If a property is given more
  than once, the last time counts.
-/

set_option autoImplicit false

namespace ServiceSupervisor.Systemd

/-- A line's name and value, if it has an equals sign. -/
def splitProperty (line : List Char) : Option (List Char × List Char) :=
  match line.dropWhile (· ≠ '=') with
  | '=' :: value => some (line.takeWhile (· ≠ '='), value)
  | _ => none

/-- The trimmed value a line gives to the property `name`, if it does. -/
def valueOf (name : List Char) (line : List Char) : Option (List Char) :=
  match splitProperty line with
  | some (n, value) => if n = name then some (Text.trimChars value) else none
  | none => none

/-- The value of the last line that gives one to the property. -/
def property (name : String) (lines : List (List Char)) : Option String :=
  ((lines.filterMap (valueOf name.toList)).getLast?).map String.ofList

/-- The status that the property `ActiveState` stands for. -/
def statusOf (state : String) : Option Status :=
  if state ∈ ["active", "reloading"] then some .running
  else if state ∈ ["inactive", "failed"] then some .stopped
  else if state ∈ ["activating", "deactivating", "refreshing", "maintenance"] then some .pending
  else none

/-- The status of the unit `name` whose properties were written. -/
def parseShow (name out : String) : Except QueryError Status :=
  let lines := Text.lines out.toList
  if property "LoadState" lines = some "not-found" then .error (.notFound name)
  else
    match property "ActiveState" lines with
    | none => .error (.host name "systemctl reported no ActiveState")
    | some state =>
      match statusOf state with
      | some s => .ok s
      | none => .error (.host name ("unrecognised ActiveState " ++ Text.quote state))

end ServiceSupervisor.Systemd
