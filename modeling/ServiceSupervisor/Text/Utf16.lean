/-!
  Text/Utf16.lean --- text as UTF-16 code units, and the units as bytes.

  A character outside the basic plane is a pair of surrogates, high before low; a
  surrogate that stands alone is ill-formed.
-/

set_option autoImplicit false

namespace ServiceSupervisor.Text.Utf16

/-- The one or two code units of a character. -/
def encodeChar (c : Char) : List UInt16 :=
  if c.toNat < 0x10000 then [c.toNat.toUInt16]
  else [(0xD800 + (c.toNat - 0x10000) / 0x400).toUInt16,
        (0xDC00 + (c.toNat - 0x10000) % 0x400).toUInt16]

/-- The code units of a text. -/
def encode (s : String) : List UInt16 := s.toList.flatMap encodeChar

/-- The first unit of a surrogate pair. -/
def isHigh (u : UInt16) : Bool := 0xD800 ≤ u && u < 0xDC00

/-- The second unit of a surrogate pair. -/
def isLow (u : UInt16) : Bool := 0xDC00 ≤ u && u < 0xE000

/-- The characters of the units, if no surrogate stands alone. -/
def decodeChars? : List UInt16 → Option (List Char)
  | [] => some []
  | u :: rest =>
    if isHigh u then
      match rest with
      | low :: rest' =>
        if isLow low then
          (decodeChars? rest').map
            (Char.ofNat (0x10000 + (u.toNat - 0xD800) * 0x400 + (low.toNat - 0xDC00)) :: ·)
        else none
      | [] => none
    else if isLow u then none
    else (decodeChars? rest).map (Char.ofNat u.toNat :: ·)

/-- The text of the units, if they are well-formed. -/
def decode? (us : List UInt16) : Option String := (decodeChars? us).map String.ofList

/-- The units of a byte sequence, low byte first; an odd last byte is left out. -/
def ofBytes : List UInt8 → List UInt16
  | low :: high :: rest => (low.toNat + high.toNat * 256).toUInt16 :: ofBytes rest
  | _ => []

/-- The bytes of the units, low byte first. -/
def toBytes (us : List UInt16) : List UInt8 :=
  us.flatMap fun u => [(u.toNat % 256).toUInt8, (u.toNat / 256).toUInt8]

end ServiceSupervisor.Text.Utf16
