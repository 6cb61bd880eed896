import ServiceSupervisor.Proofs.Text.Split
import ServiceSupervisor.Proofs.Text.Utf16
import ServiceSupervisor.Text.Utf8

/-!
  Proofs/Text/Utf8.lean --- text comes back from its bytes.
-/

set_option autoImplicit false

namespace ServiceSupervisor.Text.Utf8

variable {n low high bits : Nat} {rest : List UInt8}

/-- What a lead byte asks for, in terms of its number. -/
theorem lead_ofNat (h : n < 0x100) :
    lead (.ofNat n) =
      if n < 0x80 then some (0, .ofNat 0x80, .ofNat 0xBF, n)
      else if n < 0xC2 then none
      else if n < 0xE0 then some (1, .ofNat 0x80, .ofNat 0xBF, n - 0xC0)
      else if n < 0xF0 then
        some (2, .ofNat (if n = 0xE0 then 0xA0 else 0x80), .ofNat (if n = 0xED then 0x9F else 0xBF),
          n - 0xE0)
      else if n < 0xF5 then
        some (3, .ofNat (if n = 0xF0 then 0x90 else 0x80), .ofNat (if n = 0xF4 then 0x8F else 0xBF),
          n - 0xF0)
      else none := by
  revert n
  decide +kernel

/-- A byte in the range asked for continues the character with its last six bits. -/
theorem tails_ofNat (count : Nat) (hlow : low ≤ n) (hhigh : n ≤ high) (hbound : high < 0x100) :
    tails (count + 1) (.ofNat low) (.ofNat high) bits (.ofNat n :: rest) =
      tails count (.ofNat 0x80) (.ofNat 0xBF) (bits * 64 + (n - 0x80)) rest := by
  have hnat : ∀ m ≤ high, (UInt8.ofNat m).toNat = m := fun m hm =>
    UInt8.toNat_ofNat_of_lt' (Nat.lt_of_le_of_lt hm hbound)
  rw [tails, if_pos, hnat n hhigh]
  · rfl
  · rw [UInt8.le_iff_toNat_le, UInt8.le_iff_toNat_le, hnat n hhigh, hnat high (Nat.le_refl high),
      hnat low (Nat.le_trans hlow hhigh)]
    exact ⟨hlow, hhigh⟩

/-! ## Characters of one to four bytes -/

theorem firstPart_one (h : n ≤ 0x7F) : firstPart (.ofNat n) rest = (some (.ofNat n), rest) := by
  rw [firstPart, lead_ofNat (by omega), if_pos (by omega)]
  rfl

theorem firstPart_two (h : 0x80 ≤ n) (h' : n ≤ 0x7FF) :
    firstPart (.ofNat (n / 64 % 0x20 + 0xC0)) (.ofNat (n % 0x40 + 0x80) :: rest) =
      (some (.ofNat n), rest) := by
  rw [firstPart, lead_ofNat (by omega), if_neg (by omega), if_neg (by omega), if_pos (by omega)]
  dsimp only
  rw [tails_ofNat 0 (by omega) (by omega) (by omega), tails]
  have hbits : (n / 64 % 0x20 + 0xC0 - 0xC0) * 64 + (n % 0x40 + 0x80 - 0x80) = n := by omega
  rw [hbits, Option.map_some]

/-- The least lead byte leaves out what two bytes can say, and one of the others the
surrogates. -/
theorem firstPart_three (h : 0x800 ≤ n) (h' : n ≤ 0xFFFF) (hvalid : n < 0xD800 ∨ 0xE000 ≤ n) :
    firstPart (.ofNat (n / 4096 % 0x10 + 0xE0))
        (.ofNat (n / 64 % 0x40 + 0x80) :: .ofNat (n % 0x40 + 0x80) :: rest) =
      (some (.ofNat n), rest) := by
  rw [firstPart, lead_ofNat (by omega), if_neg (by omega), if_neg (by omega), if_neg (by omega),
    if_pos (by omega)]
  dsimp only
  rw [tails_ofNat 1 (by split <;> omega) (by split <;> omega) (by split <;> omega),
    tails_ofNat 0 (by omega) (by omega) (by omega), tails]
  have hbits : ((n / 4096 % 0x10 + 0xE0 - 0xE0) * 64 + (n / 64 % 0x40 + 0x80 - 0x80)) * 64 +
      (n % 0x40 + 0x80 - 0x80) = n := by omega
  rw [hbits, Option.map_some]

/-- The least lead byte leaves out what three bytes can say, and the greatest what no
character's number is. -/
theorem firstPart_four (h : 0x10000 ≤ n) (h' : n < 0x110000) :
    firstPart (.ofNat (n / 262144 % 0x08 + 0xF0))
        (.ofNat (n / 4096 % 0x40 + 0x80) :: .ofNat (n / 64 % 0x40 + 0x80) ::
          .ofNat (n % 0x40 + 0x80) :: rest) =
      (some (.ofNat n), rest) := by
  rw [firstPart, lead_ofNat (by omega), if_neg (by omega), if_neg (by omega), if_neg (by omega),
    if_neg (by omega), if_pos (by omega)]
  dsimp only
  rw [tails_ofNat 2 (by split <;> omega) (by split <;> omega) (by split <;> omega),
    tails_ofNat 1 (by omega) (by omega) (by omega),
    tails_ofNat 0 (by omega) (by omega) (by omega), tails]
  have hbits : (((n / 262144 % 0x08 + 0xF0 - 0xF0) * 64 + (n / 4096 % 0x40 + 0x80 - 0x80)) * 64 +
      (n / 64 % 0x40 + 0x80 - 0x80)) * 64 + (n % 0x40 + 0x80 - 0x80) = n := by omega
  rw [hbits, Option.map_some]

/-! ## Texts -/

/-- The bytes of a character are read as that character. -/
theorem parts_encodeChar_append (c : Char) (rest : List UInt8) :
    parts (String.utf8EncodeChar c ++ rest) = some c :: parts rest := by
  have hvalid := Utf16.toNat_valid c
  have hread : ∀ b more, firstPart b more = (some (.ofNat c.toNat), rest) →
      parts (b :: more) = some c :: parts rest := by
    intro b more h
    rw [parts, h, Char.ofNat_toNat]
  have hval : c.val.toNat = c.toNat := rfl
  simp only [String.utf8EncodeChar, hval]
  split
  · next h => exact hread _ _ (firstPart_one h)
  split
  · next h => exact hread _ _ (firstPart_two (by omega) h)
  split
  · next h => exact hread _ _ (firstPart_three (by omega) h (by omega))
  · exact hread _ _ (firstPart_four (by omega) (by omega))

theorem parts_flatMap_encodeChar (cs : List Char) :
    parts (cs.flatMap String.utf8EncodeChar) = cs.map some := by
  induction cs with
  | nil => rw [List.flatMap_nil, parts, List.map_nil]
  | cons c cs ih => rw [List.flatMap_cons, parts_encodeChar_append, ih, List.map_cons]

theorem decode?_encode (s : String) : decode? (encode s) = some s := by
  have hall : (s.toList.map some).mapM id = some s.toList := mapM_map_eq_some fun _ _ => rfl
  rw [decode?, encode, parts_flatMap_encodeChar, hall, Option.map_some, String.ofList_toList]

end ServiceSupervisor.Text.Utf8
