import ServiceSupervisor.Text.Split

/-!
  Files/Path.lean --- path names: segments, file names, stems and extensions.

  A path is a sequence over an alphabet that has a slash and a dot.  Most paths
  of this library are texts; the path of the running program may be any bytes,
  so what concerns it is said for both.
-/

set_option autoImplicit false

namespace ServiceSupervisor.Path

open Text (split)

section Alphabet

variable {α : Type} [DecidableEq α]

/-- The name a path ends in.  Empty segments and single dots name nothing, so the
last other segment counts, and two dots are a place rather than a name. -/
def fileName? (slash dot : α) (path : List α) : Option (List α) :=
  match ((split slash path).filter fun s => s ≠ [] ∧ s ≠ [dot]).getLast? with
  | some name => if name = [dot, dot] then none else some name
  | none => none

/-- A name's part before its last dot, and the part after it.  A dot in front is
part of the stem, so a name with no other dot has no extension. -/
def splitExtension (dot : α) (name : List α) : List α × Option (List α) :=
  match name.reverse.dropWhile (· ≠ dot) with
  | [] => (name, none)
  | [_] => (name, none)
  | _ :: before => (before.reverse, some (name.reverse.takeWhile (· ≠ dot)).reverse)

/-- The stem of the name a path ends in. -/
def stem? (slash dot : α) (path : List α) : Option (List α) :=
  (fileName? slash dot path).map fun name => (splitExtension dot name).1

end Alphabet

/-- Whether the path starts at the root. -/
def isAbsolute (path : String) : Bool := path.toList.head? == some '/'

/-- `next` seen from `base`. -/
def join (base next : String) : String :=
  if isAbsolute next || base.isEmpty then next
  else if base.toList.getLast? == some '/' then base ++ next
  else base ++ "/" ++ next

/-- The path up to its last slash, and what follows. -/
def splitLast (path : List Char) : List Char × List Char :=
  ((path.reverse.dropWhile (· ≠ '/')).reverse, (path.reverse.takeWhile (· ≠ '/')).reverse)

/-- Puts `ext` behind the stem of the last segment, if that segment is a name. -/
def setExtension (ext path : List Char) : List Char :=
  let (folder, name) := splitLast path
  if name = [] ∨ name = ['.'] ∨ name = ['.', '.'] then path
  else folder ++ (splitExtension '.' name).1 ++ '.' :: ext

/-- The path with `ext` as its extension.  An old extension is cut off first, the
dot in front of it kept; so where only dots are left there is no name to extend,
and the cut path itself is the result. -/
def withExtension (ext : String) (path : String) : String :=
  let chars := path.toList
  let old := match (splitExtension '.' (splitLast chars).2).2 with
    | some e => e.length
    | none => 0
  String.ofList (setExtension ext.toList (chars.take (chars.length - old)))

/-- The segments of a path that lead somewhere: no empty ones, no single dots. -/
def steps (path : String) : List String :=
  ((split '/' path.toList).filter fun s => s ≠ [] ∧ s ≠ ['.']).map String.ofList

end ServiceSupervisor.Path
