import ServiceSupervisor.Files.Tree
import ServiceSupervisor.Systemd.Unit

/-!
  Systemd/UnitFile.lean --- writing a unit, so that its file is whole or as it was.

  The text goes into a temporary file beside the unit's, which takes the place of
  the unit's file only when it is complete.  Storage may refuse any of the steps;
  the first one that fails ends the writing.
-/

set_option autoImplicit false

namespace ServiceSupervisor.Systemd

/-- Why a unit was not written. -/
inductive UnitError where
  | makeFolder (e : FileError)
  | create (path : String) (e : FileError)
  | fill (e : FileError)
  | sync (e : FileError)
  | permit (e : FileError)
  | move (path : String) (e : FileError)
  deriving DecidableEq, Repr, Inhabited

/-- What is said about the error. -/
def UnitError.message : UnitError → String
  | makeFolder e => "Failed to create systemd unit directory: " ++ e.message
  | create path e => "Failed to create " ++ path ++ ": " ++ e.message
  | fill e => "Failed to write unit file: " ++ e.message
  | sync e => "Failed to sync unit file: " ++ e.message
  | permit e => "Failed to set unit file permissions: " ++ e.message
  | move path e => "Failed to move unit file to " ++ path ++ ": " ++ e.message

/-- The steps that storage is going to refuse, each with its error.  A refused
making of the folder may still have made the first folders on the way to it, and a
refused filling may have written the first bytes. -/
structure StorageFaults where
  makeFolder : Option (FileError × Nat)
  create : Option FileError
  fill : Option (FileError × Nat)
  sync : Option FileError
  permit : Option FileError
  move : Option FileError
  deriving DecidableEq, Repr, Inhabited

/-- Storage that refuses nothing. -/
def StorageFaults.none : StorageFaults :=
  ⟨Option.none, Option.none, Option.none, Option.none, Option.none, Option.none⟩

/-- A computation on files.  What it did to them stays done when it fails. -/
abbrev Filing (ε : Type) : Type → Type := ExceptT ε (StateM Tree)

/-- A step on the files, unless storage refuses it. -/
def attempt {ε : Type} (fault : Option FileError) (wrap : FileError → ε)
    (step : Tree → Except FileError Tree) : Filing ε Unit := fun t =>
  match fault with
  | some e => (.error (wrap e), t)
  | none =>
    match step t with
    | .ok t' => (.ok (), t')
    | .error e => (.error (wrap e), t)

/-- Makes the folder; when that fails, some folders on the way to it may be there. -/
def folderStep (fault : Option (FileError × Nat)) (folder : String) : Filing UnitError Unit :=
  fun t =>
    match fault with
    | none =>
      match t.makeFolders folder with
      | .ok t' => (.ok (), t')
      | .error (e, t') => (.error (.makeFolder e), t')
    | some (e, n) =>
      (.error (.makeFolder e),
        match t.makeFirstFolders folder n with
        | .ok t' => t'
        | .error (_, t') => t')

namespace UnitSpec

/-- Where the unit's file is in a folder. -/
def path (u : UnitSpec) (folder : String) : String := Path.join folder (unitName u.name)

/-- The temporary file beside it. -/
def temporary (u : UnitSpec) (folder : String) : String :=
  Path.withExtension "service.tmp" (u.path folder)

/-- What is written into the file. -/
def content (u : UnitSpec) : List UInt8 := Text.Utf8.encode u.text

/-- The permissions of the file: its owner may write, and all may read. -/
def mode : Nat := 0o644

/-- Fills the temporary file; when that fails, some bytes may be there. -/
def fillStep (u : UnitSpec) (fault : Option (FileError × Nat)) (folder : String) :
    Filing UnitError Unit := fun t =>
  match fault with
  | none => attempt .none .fill (·.writeFile (u.temporary folder) u.content) t
  | some (e, n) =>
    (.error (.fill e),
      match t.writeFile (u.temporary folder) (u.content.take n) with
      | .ok t' => t'
      | .error _ => t)

/-- Writes the unit into the folder, on storage with faults; tells its path. -/
def writeOn (u : UnitSpec) (faults : StorageFaults) (folder : String) :
    Filing UnitError String := do
  folderStep faults.makeFolder folder
  attempt faults.create (.create (u.temporary folder)) (·.writeFile (u.temporary folder) [])
  u.fillStep faults.fill folder
  attempt faults.sync .sync .ok
  attempt faults.permit .permit (·.permit (u.temporary folder) mode)
  attempt faults.move (.move (u.path folder)) (·.moveFile (u.temporary folder) (u.path folder))
  pure (u.path folder)

/-- Writes the unit into the folder; tells its path. -/
def write (u : UnitSpec) (folder : String) : Filing UnitError String :=
  u.writeOn .none folder

end UnitSpec

end ServiceSupervisor.Systemd
