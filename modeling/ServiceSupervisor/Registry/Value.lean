import ServiceSupervisor.Settings.Source
import ServiceSupervisor.Text.Split
import ServiceSupervisor.Text.Utf16

/-!
  Registry/Value.lean --- typed values of the registry, and the settings they hold.

  Text is stored as UTF-16 units, low byte first, each string closed by a NUL
  unit and a list of strings by one more.
-/

set_option autoImplicit false

namespace ServiceSupervisor.Registry

open Settings (Value)

/-- What the registry holds under a name: bytes, and the number of their type. -/
structure Data where
  type : Nat
  bytes : List UInt8
  deriving DecidableEq, Repr, Inhabited

namespace Data

/-- The number that bytes write, the lowest byte first. -/
def number : List UInt8 → Nat
  | [] => 0
  | b :: bs => b.toNat + 256 * number bs

/-- The strings of a text value: what stands between NUL units, up to the first
place where nothing does.  One that is not well-formed is `none`. -/
def strings (bytes : List UInt8) : List (Option String) :=
  ((Text.split 0 (Text.Utf16.ofBytes bytes)).takeWhile (· ≠ [])).map Text.Utf16.decode?

/-- The value that one string is read as. -/
def text (bytes : List UInt8) : Value :=
  match strings bytes with
  | [] => .text ""
  | some s :: _ => .text s
  | none :: _ => .other "invalid UTF-16 string"

/-- The value that a list of strings is read as; every one of them must be well-formed. -/
def textList (bytes : List UInt8) : Value :=
  match (strings bytes).mapM id with
  | some xs => .textList xs
  | none => .other "invalid UTF-16 string list"

/-- The setting that registry data holds.  Data too short for its type counts as
data of a type that is never accepted. -/
def decode (d : Data) : Value :=
  match d.type with
  | 1 => text d.bytes
  | 2 => text d.bytes
  | 4 => if 4 ≤ d.bytes.length then .integer (number (d.bytes.take 4)) else .other "registry type 4"
  | 5 =>
    if 4 ≤ d.bytes.length then .integer (number (d.bytes.take 4).reverse)
    else .other "registry type 5"
  | 7 => textList d.bytes
  | 11 =>
    if 8 ≤ d.bytes.length then .integer (number (d.bytes.take 8)) else .other "registry type 11"
  | n => .other ("registry type " ++ toString n)

end Data

end ServiceSupervisor.Registry
