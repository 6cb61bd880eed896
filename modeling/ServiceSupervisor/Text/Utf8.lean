/-!
  Text/Utf8.lean --- bytes read as UTF-8 text, strictly and with repairs.

  A byte sequence splits into characters and ill-formed parts.  An ill-formed
  part is as long as it can be while it still begins some character's encoding,
  and a single byte if it begins none; the strict reading refuses the sequence if
  there is such a part, the repairing one shows each as U+FFFD.
-/

set_option autoImplicit false

namespace ServiceSupervisor.Text.Utf8

/-- What a lead byte asks for: how many continuation bytes, the least and the
greatest value of the first of them, and the lead byte's own share of the code
point.  There is no answer for a byte that leads nothing. -/
def lead (b : UInt8) : Option (Nat × UInt8 × UInt8 × Nat) :=
  if b < 0x80 then some (0, 0x80, 0xBF, b.toNat)
  else if b < 0xC2 then none
  else if b < 0xE0 then some (1, 0x80, 0xBF, b.toNat - 0xC0)
  else if b < 0xF0 then
    some (2, if b = 0xE0 then 0xA0 else 0x80, if b = 0xED then 0x9F else 0xBF, b.toNat - 0xE0)
  else if b < 0xF5 then
    some (3, if b = 0xF0 then 0x90 else 0x80, if b = 0xF4 then 0x8F else 0xBF, b.toNat - 0xF0)
  else none

/-- Reads `n` continuation bytes, the first of them between `lo` and `hi`, onto
the bits read so far; stops before the first byte that does not fit. -/
def tails : Nat → UInt8 → UInt8 → Nat → List UInt8 → Option Nat × List UInt8
  | 0, _, _, bits, rest => (some bits, rest)
  | n + 1, lo, hi, bits, b :: rest =>
    if lo ≤ b ∧ b ≤ hi then tails n 0x80 0xBF (bits * 64 + (b.toNat - 0x80)) rest
    else (none, b :: rest)
  | _ + 1, _, _, _, [] => (none, [])

theorem length_tails_le (n : Nat) (lo hi : UInt8) (bits : Nat) (bs : List UInt8) :
    (tails n lo hi bits bs).2.length ≤ bs.length := by
  induction n generalizing lo hi bits bs with
  | zero => simp [tails]
  | succ n ih =>
    cases bs with
    | nil => simp [tails]
    | cons b rest =>
      simp only [tails]
      split
      · exact Nat.le_succ_of_le (ih ..)
      · simp

/-- The first part of `b :: rest`, a character or none for an ill-formed part, and
the bytes after it. -/
def firstPart (b : UInt8) (rest : List UInt8) : Option Char × List UInt8 :=
  match lead b with
  | none => (none, rest)
  | some (n, lo, hi, bits) =>
    let read := tails n lo hi bits rest
    (read.1.map Char.ofNat, read.2)

theorem length_firstPart_le (b : UInt8) (rest : List UInt8) :
    (firstPart b rest).2.length ≤ rest.length := by
  unfold firstPart
  split
  · simp
  · exact length_tails_le ..

/-- The characters and ill-formed parts of a byte sequence, in order. -/
def parts : List UInt8 → List (Option Char)
  | [] => []
  | b :: rest =>
    have := length_firstPart_le b rest
    (firstPart b rest).1 :: parts (firstPart b rest).2
termination_by bs => bs.length

/-- The text of the bytes, each ill-formed part shown as U+FFFD. -/
def decodeLossy (bs : List UInt8) : String :=
  String.ofList ((parts bs).map (·.getD '\uFFFD'))

/-- The text of the bytes, if every part is a character. -/
def decode? (bs : List UInt8) : Option String :=
  ((parts bs).mapM id).map String.ofList

/-- The bytes of a text. -/
def encode (s : String) : List UInt8 :=
  s.toList.flatMap String.utf8EncodeChar

end ServiceSupervisor.Text.Utf8
