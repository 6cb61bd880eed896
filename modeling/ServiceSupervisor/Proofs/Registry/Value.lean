import Mathlib.Data.List.TakeWhile
import ServiceSupervisor.Proofs.Text.Split
import ServiceSupervisor.Proofs.Text.Utf16
import ServiceSupervisor.Registry.Value

/-!
  Proofs/Registry/Value.lean --- values as the registry stores them, and what is read back.

  Strings are stored with a NUL unit behind each and one more behind the last; numbers
  in four or eight bytes, the four also with the highest first.
-/

set_option autoImplicit false

namespace ServiceSupervisor.Registry.Data

open Settings (Value)
open Text.Utf16 (decode? decode?_encode encode encode_eq_nil_iff ofBytes ofBytes_toBytes_append
  toBytes toNat_toUInt8 zero_mem_encode_iff)

/-! ## Numbers -/

/-- The lowest bytes of a number, the lowest first. -/
def littleEndian : Nat → Nat → List UInt8
  | 0, _ => []
  | width + 1, n => (n % 256).toUInt8 :: littleEndian width (n / 256)

@[simp] theorem length_littleEndian (width n : Nat) : (littleEndian width n).length = width := by
  induction width generalizing n with
  | zero => rfl
  | succ width ih => rw [littleEndian, List.length_cons, ih]

theorem number_littleEndian {width n : Nat} (h : n < Nat.pow 256 width) :
    number (littleEndian width n) = n := by
  induction width generalizing n with
  | zero =>
    rw [Nat.lt_one_iff.mp h]
    rfl
  | succ width ih =>
    have hrest : n / 256 < Nat.pow 256 width := by
      apply Nat.div_lt_of_lt_mul
      rw [Nat.mul_comm]
      exact h
    rw [littleEndian, number, ih hrest, toNat_toUInt8 (Nat.mod_lt n (by decide)),
      Nat.mod_add_div]

/-- The ways in which a number is stored. -/
inductive Writes (n : Nat) : Data → Prop
  | wide (h : n < Nat.pow 2 64) : Writes n ⟨11, littleEndian 8 n⟩
  | narrow (h : n < Nat.pow 2 32) : Writes n ⟨4, littleEndian 4 n⟩
  | highestFirst (h : n < Nat.pow 2 32) : Writes n ⟨5, (littleEndian 4 n).reverse⟩

theorem decode_of_writes {n : Nat} {d : Data} (h : Writes n d) : d.decode = .integer n := by
  cases h with
  | wide h =>
    have htake : (littleEndian 8 n).take 8 = littleEndian 8 n :=
      List.take_of_length_le (by simp)
    have hnumber : number (littleEndian 8 n) = n := number_littleEndian h
    simp [decode, htake, hnumber]
  | narrow h =>
    have htake : (littleEndian 4 n).take 4 = littleEndian 4 n :=
      List.take_of_length_le (by simp)
    have hnumber : number (littleEndian 4 n) = n := number_littleEndian h
    simp [decode, htake, hnumber]
  | highestFirst h =>
    have htake : (littleEndian 4 n).reverse.take 4 = (littleEndian 4 n).reverse :=
      List.take_of_length_le (by simp)
    have hnumber : number (littleEndian 4 n) = n := number_littleEndian h
    simp [decode, htake, hnumber]

/-! ## Strings -/

variable {xs : List String} {bytes : List UInt8}

/-- The units of some strings, each closed by a zero. -/
def closedUnits (xs : List String) : List UInt16 :=
  xs.flatMap fun s => encode s ++ [0]

/-- Strings stored as a list: it is closed by one more zero. -/
def ofStrings (xs : List String) : Data := ⟨7, toBytes (closedUnits xs ++ [0])⟩

theorem split_closedUnits_append (hplain : ∀ s ∈ xs, '\x00' ∉ s.toList) (rest : List UInt16) :
    Text.split 0 (closedUnits xs ++ rest) = xs.map encode ++ Text.split 0 rest := by
  have hzero : ∀ part ∈ xs.map encode, 0 ∉ part := by
    intro part hpart
    obtain ⟨s, hs, rfl⟩ := List.mem_map.mp hpart
    exact mt zero_mem_encode_iff.mp (hplain s hs)
  rw [← Text.split_flatMap_append hzero, List.flatMap_map]
  rfl

/-- The units between the zeros. -/
def chunks (bytes : List UInt8) : List (List UInt16) := Text.split 0 (ofBytes bytes)

theorem strings_eq (bytes : List UInt8) :
    strings bytes = ((chunks bytes).takeWhile (· ≠ [])).map decode? := rfl

theorem textList_of_strings (h : strings bytes = xs.map some) : textList bytes = .textList xs := by
  have hall : (xs.map some).mapM id = some xs := Text.mapM_map_eq_some fun _ _ => rfl
  rw [textList, h, hall]

theorem chunks_closedUnits (hplain : ∀ s ∈ xs, '\x00' ∉ s.toList) (us : List UInt16)
    (bytes : List UInt8) :
    chunks (toBytes (closedUnits xs ++ us) ++ bytes) =
      xs.map encode ++ Text.split 0 (us ++ ofBytes bytes) := by
  rw [chunks, ofBytes_toBytes_append, List.append_assoc, split_closedUnits_append hplain]

/-- Of the chunks of a list those before the first empty one count. -/
theorem textList_of_chunks {rest : List (List UInt16)} (h : chunks bytes = xs.map encode ++ rest)
    (hrest : rest.takeWhile (· ≠ []) = []) :
    textList bytes = .textList (xs.takeWhile (· ≠ "")) := by
  have hcut : (xs.map encode ++ rest).takeWhile (· ≠ []) =
      (xs.map encode).takeWhile (· ≠ []) := by
    rw [List.takeWhile_append, hrest, List.append_nil]
    split
    · next hlength => exact ((List.takeWhile_prefix _).eq_of_length hlength).symm
    · rfl
  have hempty : ((fun us : List UInt16 => decide (us ≠ [])) ∘ encode) =
      fun s => decide (s ≠ "") := by
    funext s
    simp [encode_eq_nil_iff]
  apply textList_of_strings
  rw [strings_eq, h, hcut, List.takeWhile_map, hempty, List.map_map]
  exact List.map_congr_left fun s _ => decode?_encode s

theorem takeWhile_of_forall_ne (hsome : ∀ s ∈ xs, s ≠ "") : xs.takeWhile (· ≠ "") = xs :=
  List.takeWhile_eq_self_iff.mpr fun s hs => by simpa using hsome s hs

theorem decode_ofStrings (hplain : ∀ s ∈ xs, '\x00' ∉ s.toList) (hsome : ∀ s ∈ xs, s ≠ "") :
    (ofStrings xs).decode = .textList xs := by
  have hchunks := chunks_closedUnits hplain [0] []
  rw [List.append_nil] at hchunks
  have htext := textList_of_chunks hchunks (by simp [Text.split])
  rwa [takeWhile_of_forall_ne hsome] at htext

end ServiceSupervisor.Registry.Data
