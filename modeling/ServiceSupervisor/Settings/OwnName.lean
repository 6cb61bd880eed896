import ServiceSupervisor.Files.Path
import ServiceSupervisor.Settings.Error
import ServiceSupervisor.Text.Blank
import ServiceSupervisor.Text.Utf8

/-!
  Settings/OwnName.lean --- the supervisor's own service name.

  The name becomes a file name, a folder name, a unit name and a part of a
  registry path, so it must hold something visible and no separator of paths.
-/

set_option autoImplicit false

namespace ServiceSupervisor

open Settings (NameFault)

/-- The characters that would lead a path elsewhere. -/
def isPathSeparator (c : Char) : Bool := c == '/' || c == '\\' || c == '\x00'

/-- A name the supervisor can be registered under. -/
structure OwnName where
  text : String
  visible : Text.isBlankText text = false
  plain : text.toList.any isPathSeparator = false
  deriving DecidableEq, Repr

namespace OwnName

/-- Accepts a name as it stands; surrounding blanks stay. -/
def ofText (text : String) : Except Settings.Error OwnName :=
  if visible : Text.isBlankText text = false then
    if plain : text.toList.any isPathSeparator = false then .ok ⟨text, visible, plain⟩
    else .error (.badName (.separator text))
  else .error (.badName .blank)

/-- The name of a program: the stem of its file name, which must be text. -/
def ofProgram (path : List UInt8) : Except Settings.Error OwnName :=
  match (Path.stem? 0x2F 0x2E path).bind Text.Utf8.decode? with
  | some stem => ofText stem
  | none => .error (.badName (.noFileName (Text.Utf8.decodeLossy path)))

/-- The name asked for, or else that of the running program. -/
def resolve (asked : Option String) (program : List UInt8) : Except Settings.Error OwnName :=
  match asked with
  | some text => ofText text
  | none => ofProgram program

/-- A name that is accepted is the text that was given. -/
theorem ofText_eq_ok_iff {text : String} {name : OwnName} :
    ofText text = .ok name ↔ name.text = text := by
  unfold ofText
  constructor
  · intro h
    split at h
    · split at h
      · injection h with h
        rw [← h]
      · exact nomatch h
    · exact nomatch h
  · rintro rfl
    rw [dif_pos name.visible, dif_pos name.plain]

end OwnName

end ServiceSupervisor
