/-!
  Text/Plain.lean --- text without control characters and terminal sequences.

  A terminal takes control characters and escape sequences for orders.  Bytes that
  go elsewhere are freed of them first: what is left is the printable characters
  and the white space.  The bytes are UTF-8.
-/

set_option autoImplicit false

namespace ServiceSupervisor.Text.Plain

/-- Where in a sequence the last byte was. -/
inductive Mode where
  | ground
  /-- in a character, with so many bytes to come -/
  | character (left : Nat)
  | escape
  | intermediate
  /-- in a control sequence -/
  | csi
  /-- in an operating system command -/
  | osc
  /-- in the head of a device control string -/
  | head
  /-- in a string that is skipped to its end -/
  | body
  deriving DecidableEq, Repr, Inhabited

/-- Tab, line feed, form feed and carriage return. -/
def isSpacing (b : UInt8) : Bool := b == 9 || b == 10 || b == 12 || b == 13

/-- Whether `b` is one of the bytes from `low` to `high`. -/
def isIn (low high b : UInt8) : Bool := low ≤ b && b ≤ high

/-- The mode that the first byte of a character leads to, if it is printable. -/
def begin? (b : UInt8) : Option Mode :=
  if isSpacing b || isIn 0x20 0x7E b then some .ground
  else if isIn 0xC2 0xDF b then some (.character 1)
  else if isIn 0xE0 0xEF b then some (.character 2)
  else if isIn 0xF0 0xF4 b then some (.character 3)
  else none

/-- The mode after a byte inside a sequence that does not end it by force. -/
def follow (m : Mode) (b : UInt8) : Mode :=
  match m with
  | .escape =>
    if isIn 0x20 0x2F b then .intermediate
    else if b == 0x50 then .head
    else if b == 0x5B then .csi
    else if b == 0x5D then .osc
    else if b == 0x58 || b == 0x5E || b == 0x5F then .body
    else if isIn 0x30 0x7E b then .ground
    else .escape
  | .intermediate => if isIn 0x30 0x7E b then .ground else .intermediate
  | .csi => if isIn 0x40 0x7E b then .ground else .csi
  | .osc => if b == 0x07 then .ground else .osc
  | .head => if isIn 0x40 0x7E b || b == 0x3A then .body else .head
  | .body => if b == 0x9C then .ground else .body
  | m => m

/-- Whether white space ends a sequence of the mode. -/
def yieldsToSpacing : Mode → Bool
  | .escape => true
  | .intermediate => true
  | .csi => true
  | _ => false

/-- The mode after a byte, and whether the byte stays. -/
def step (m : Mode) (b : UInt8) : Mode × Bool :=
  match m with
  | .character (left + 2) => (.character (left + 1), true)
  | .character _ => (.ground, true)
  | m =>
    if b == 0x18 || b == 0x1A then (.ground, false)
    else if b == 0x1B then (.escape, false)
    else
      match m with
      | .ground =>
        match begin? b with
        | some m => (m, true)
        | none => (.ground, false)
      | m => if yieldsToSpacing m && isSpacing b then (.ground, true) else (follow m b, false)

/-- The bytes that stay, from a mode on. -/
def stripFrom : Mode → List UInt8 → List UInt8
  | _, [] => []
  | m, b :: rest =>
    let (m, stays) := step m b
    if stays then b :: stripFrom m rest else stripFrom m rest

/-- The bytes without control characters and terminal sequences. -/
def strip (bytes : List UInt8) : List UInt8 := stripFrom .ground bytes

end ServiceSupervisor.Text.Plain
