import ServiceSupervisor.Files.FileError
import ServiceSupervisor.Files.Path
import ServiceSupervisor.Text.Utf8

/-!
  Files/Tree.lean --- a file tree, and the operations the program makes on it.

  A tree maps places, which are lists of segments from the root, to files and
  folders, and some of them to the permissions that they were given.  Path names
  are walked segment by segment: each segment but the last must name a folder, and
  two dots lead to the folder above.
-/

set_option autoImplicit false

namespace ServiceSupervisor

/-- A place in a tree, as segments from the root. -/
abbrev Place : Type := List String

/-- What stands at a place. -/
inductive Item where
  | file (content : List UInt8)
  | folder
  deriving DecidableEq, Repr, Inhabited

/-- A file tree, the folder that relative paths start from, and the permissions that
were given. -/
structure Tree where
  items : List (Place × Item)
  here : Place
  modes : List (Place × Nat)
  deriving DecidableEq, Repr, Inhabited

namespace Tree

/-- What stands at a place; the root is always a folder. -/
def get? (t : Tree) (p : Place) : Option Item :=
  if p = [] then some .folder else (t.items.find? fun e => e.1 = p).map (·.2)

/-- Puts something at a place, where it takes over the permissions. -/
def put (t : Tree) (p : Place) (i : Item) : Tree :=
  { t with items := (p, i) :: t.items.filter fun e => e.1 ≠ p }

/-- Takes away what stands at a place, and its permissions. -/
def erase (t : Tree) (p : Place) : Tree :=
  { t with
    items := t.items.filter fun e => e.1 ≠ p
    modes := t.modes.filter fun e => e.1 ≠ p }

/-- The permissions that were given to what stands at a place. -/
def mode? (t : Tree) (p : Place) : Option Nat := (t.modes.find? fun e => e.1 = p).map (·.2)

/-- Changes the permissions at a place, or leaves them to the system. -/
def allow (t : Tree) (p : Place) (mode : Option Nat) : Tree :=
  { t with modes := (mode.map (p, ·)).toList ++ t.modes.filter fun e => e.1 ≠ p }

/-- Whether a folder stands at a place. -/
def isFolder (t : Tree) (p : Place) : Bool := t.get? p == some .folder

/-- The longest name of one segment, in bytes. -/
def maxSegment : Nat := 255

/-- The longest path, in bytes. -/
def maxPath : Nat := 4095

/-- Walks from a place along segments.  Every place that is left must be a folder;
the last one reached may be anything, or nothing. -/
def walk (t : Tree) : Place → List String → Except FileError Place
  | p, [] => .ok p
  | p, s :: rest =>
    match t.get? p with
    | none => .error .missing
    | some (.file _) => .error .notFolder
    | some .folder =>
      if s = "" ∨ s = "." then walk t p rest
      else if s = ".." then walk t p.dropLast rest
      else if s.utf8ByteSize > maxSegment then .error .nameTooLong
      else walk t (p ++ [s]) rest

/-- Where a path starts. -/
def start (t : Tree) (path : String) : Place :=
  if Path.isAbsolute path then [] else t.here

/-- What is wrong with a path before any of it is walked. -/
def refusal (path : String) : Option FileError :=
  if path.toList.any (· == '\x00') then some .nulInName
  else if path.isEmpty then some .missing
  else if path.utf8ByteSize > maxPath then some .nameTooLong
  else none

/-- The place a path names, which need not exist. -/
def locate (t : Tree) (path : String) : Except FileError Place :=
  match refusal path with
  | some e => .error e
  | none => t.walk (t.start path) ((Text.split '/' path.toList).map String.ofList)

/-! ## Reading -/

/-- The bytes of a file. -/
def readFile (t : Tree) (path : String) : Except FileError (List UInt8) := do
  let p ← t.locate path
  match t.get? p with
  | none => .error .missing
  | some .folder => .error .isFolder
  | some (.file content) => .ok content

/-- The text of a file. -/
def readText (t : Tree) (path : String) : Except FileError String := do
  let content ← t.readFile path
  match Text.Utf8.decode? content with
  | some text => .ok text
  | none => .error .notText

/-- The path from the root of something that exists. -/
def realPath (t : Tree) (path : String) : Except FileError String := do
  let p ← t.locate path
  match t.get? p with
  | none => .error .missing
  | some _ => .ok ("/" ++ String.intercalate "/" p)

/-! ## Changing -/

/-- Makes one folder, from a starting place along segments. -/
def makeFolderAt (t : Tree) (from' : Place) (segments : List String) : Except FileError Tree := do
  let p ← t.walk from' segments
  match t.get? p with
  | some _ => .error .alreadyThere
  | none => .ok (t.put p .folder)

/-- Whether the segments lead to a folder. -/
def isFolderAt (t : Tree) (from' : Place) (segments : List String) : Bool :=
  match t.walk from' segments with
  | .ok p => t.isFolder p
  | .error _ => false

/-- Makes the folder that the first `n` segments lead to.  Only when it cannot be
made for want of the folder around it is that one made first; a folder that is
there already is left alone.  What was made stays made when it fails. -/
def makeFoldersAt (from' : Place) (segments : List String) :
    Nat → Tree → Except (FileError × Tree) Tree
  | 0, t => .ok t
  | n + 1, t =>
    match t.makeFolderAt from' (segments.take (n + 1)) with
    | .ok t' => .ok t'
    | .error .missing => do
      let t' ← makeFoldersAt from' segments n t
      match t'.makeFolderAt from' (segments.take (n + 1)) with
      | .ok t'' => .ok t''
      | .error e =>
        if t'.isFolderAt from' (segments.take (n + 1)) then .ok t' else .error (e, t')
    | .error e => if t.isFolderAt from' (segments.take (n + 1)) then .ok t else .error (e, t)

/-- Makes the folder that the first `n` steps of a path lead to, and every folder on the
way to it. -/
def makeFirstFolders (t : Tree) (path : String) (n : Nat) : Except (FileError × Tree) Tree :=
  if path.isEmpty then .ok t
  else
    match refusal path with
    | some e => .error (e, t)
    | none =>
      let segments := Path.steps path
      makeFoldersAt (t.start path) segments (min n segments.length) t

/-- Makes a folder and every folder on the way to it. -/
def makeFolders (t : Tree) (path : String) : Except (FileError × Tree) Tree :=
  t.makeFirstFolders path (Path.steps path).length

/-- Creates a file, or empties and fills the one that is there. -/
def writeFile (t : Tree) (path : String) (content : List UInt8) : Except FileError Tree := do
  let p ← t.locate path
  match t.get? p with
  | some .folder => .error .isFolder
  | _ => .ok (t.put p (.file content))

/-- Creates a file if there is none, and adds to its end. -/
def appendFile (t : Tree) (path : String) (content : List UInt8) : Except FileError Tree := do
  let p ← t.locate path
  match t.get? p with
  | some .folder => .error .isFolder
  | some (.file old) => .ok (t.put p (.file (old ++ content)))
  | none => .ok (t.put p (.file content))

/-- Gives permissions to what stands at a path. -/
def permit (t : Tree) (path : String) (mode : Nat) : Except FileError Tree := do
  let p ← t.locate path
  match t.get? p with
  | none => .error .missing
  | some _ => .ok (t.allow p (some mode))

/-- Moves a file to another path, over a file that is there.  It keeps its
permissions. -/
def moveFile (t : Tree) (source target : String) : Except FileError Tree := do
  let p ← t.locate source
  let q ← t.locate target
  match t.get? p with
  | none => .error .missing
  | some .folder => .error .isFolder
  | some item =>
    match t.get? q with
    | some .folder => .error .isFolder
    | _ => .ok (((t.erase p).put q item).allow q (t.mode? p))

/-- Removes a file. -/
def removeFile (t : Tree) (path : String) : Except FileError Tree := do
  let p ← t.locate path
  match t.get? p with
  | none => .error .missing
  | some .folder => .error .isFolder
  | some (.file _) => .ok (t.erase p)

end Tree

end ServiceSupervisor
