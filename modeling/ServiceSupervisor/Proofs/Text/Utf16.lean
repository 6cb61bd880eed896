import ServiceSupervisor.Text.Utf16

/-!
  Proofs/Text/Utf16.lean --- text comes back from its code units, and they from their bytes.
-/

set_option autoImplicit false

namespace ServiceSupervisor.Text.Utf16

variable {u : UInt16} {c : Char}

theorem toNat_toUInt16 {n : Nat} (h : n < 0x10000) : n.toUInt16.toNat = n :=
  UInt16.toNat_ofNat_of_lt' h

theorem toNat_toUInt8 {n : Nat} (h : n < 0x100) : n.toUInt8.toNat = n :=
  UInt8.toNat_ofNat_of_lt' h

theorem isHigh_iff : isHigh u = true ↔ 0xD800 ≤ u.toNat ∧ u.toNat < 0xDC00 := by
  simp [isHigh, UInt16.le_iff_toNat_le, UInt16.lt_iff_toNat_lt]

theorem isLow_iff : isLow u = true ↔ 0xDC00 ≤ u.toNat ∧ u.toNat < 0xE000 := by
  simp [isLow, UInt16.le_iff_toNat_le, UInt16.lt_iff_toNat_lt]

/-- No character has the number of a surrogate. -/
theorem toNat_valid (c : Char) :
    c.toNat < 0xD800 ∨ 0xE000 ≤ c.toNat ∧ c.toNat < 0x110000 := by
  have h : c.toNat.isValidChar := c.valid
  rcases h with h | ⟨h, h'⟩
  · exact Or.inl h
  · exact Or.inr ⟨h, h'⟩

/-- A unit that is no surrogate is a character. -/
theorem decodeChars?_plain (hhigh : isHigh u = false) (hlow : isLow u = false)
    (rest : List UInt16) :
    decodeChars? (u :: rest) = (decodeChars? rest).map (Char.ofNat u.toNat :: ·) := by
  rw [decodeChars?.eq_def]
  simp [hhigh, hlow]

/-- So is a pair of surrogates. -/
theorem decodeChars?_pair {low : UInt16} (hhigh : isHigh u = true) (hlow : isLow low = true)
    (rest : List UInt16) :
    decodeChars? (u :: low :: rest) = (decodeChars? rest).map
      (Char.ofNat (0x10000 + (u.toNat - 0xD800) * 0x400 + (low.toNat - 0xDC00)) :: ·) := by
  rw [decodeChars?.eq_def]
  simp [hhigh, hlow]

/-- The units of a character are read as that character. -/
theorem decodeChars?_encodeChar_append (c : Char) (rest : List UInt16) :
    decodeChars? (encodeChar c ++ rest) = (decodeChars? rest).map (c :: ·) := by
  have hvalid := toNat_valid c
  by_cases hplane : c.toNat < 0x10000
  · have hunit : c.toNat.toUInt16.toNat = c.toNat := toNat_toUInt16 hplane
    have hhigh : isHigh c.toNat.toUInt16 = false := by
      rw [← Bool.not_eq_true, isHigh_iff, hunit]
      omega
    have hlow : isLow c.toNat.toUInt16 = false := by
      rw [← Bool.not_eq_true, isLow_iff, hunit]
      omega
    rw [encodeChar, if_pos hplane, List.singleton_append, decodeChars?_plain hhigh hlow, hunit,
      Char.ofNat_toNat]
  · have hhigh : (0xD800 + (c.toNat - 0x10000) / 0x400).toUInt16.toNat =
        0xD800 + (c.toNat - 0x10000) / 0x400 := toNat_toUInt16 (by omega)
    have hlow : (0xDC00 + (c.toNat - 0x10000) % 0x400).toUInt16.toNat =
        0xDC00 + (c.toNat - 0x10000) % 0x400 := toNat_toUInt16 (by omega)
    have hpair : 0x10000 + (0xD800 + (c.toNat - 0x10000) / 0x400 - 0xD800) * 0x400 +
        (0xDC00 + (c.toNat - 0x10000) % 0x400 - 0xDC00) = c.toNat := by omega
    rw [encodeChar, if_neg hplane, List.cons_append, List.singleton_append,
      decodeChars?_pair, hhigh, hlow, hpair, Char.ofNat_toNat]
    · rw [isHigh_iff, hhigh]
      omega
    · rw [isLow_iff, hlow]
      omega

theorem decodeChars?_flatMap_encodeChar (cs : List Char) :
    decodeChars? (cs.flatMap encodeChar) = some cs := by
  induction cs with
  | nil => rfl
  | cons c cs ih =>
    rw [List.flatMap_cons, decodeChars?_encodeChar_append, ih]
    rfl

theorem decode?_encode (s : String) : decode? (encode s) = some s := by
  rw [decode?, encode, decodeChars?_flatMap_encodeChar, Option.map_some, String.ofList_toList]

theorem zero_mem_encodeChar_iff : 0 ∈ encodeChar c ↔ c = '\x00' := by
  have hvalid := toNat_valid c
  have hzero : ∀ n : Nat, (0 : UInt16) = n.toUInt16 ↔ n % 0x10000 = 0 := by
    intro n
    rw [eq_comm, ← UInt16.toNat_inj, Nat.toUInt16, UInt16.toNat_ofNat']
    rfl
  by_cases hplane : c.toNat < 0x10000
  · have hnul : c = '\x00' ↔ c.toNat = 0 := by
      rw [← Char.toNat_inj]
      rfl
    rw [encodeChar, if_pos hplane, List.mem_singleton, hzero, hnul, Nat.mod_eq_of_lt hplane]
  · have hne : c ≠ '\x00' := by
      rintro rfl
      exact hplane (by decide)
    rw [encodeChar, if_neg hplane, List.mem_cons, List.mem_singleton, hzero, hzero]
    constructor
    · omega
    · exact fun h => absurd h hne

/-- Only a NUL has a zero among its units. -/
theorem zero_mem_encode_iff {s : String} : 0 ∈ encode s ↔ '\x00' ∈ s.toList := by
  simp only [encode, List.mem_flatMap, zero_mem_encodeChar_iff]
  constructor
  · rintro ⟨c, hc, rfl⟩
    exact hc
  · exact fun h => ⟨_, h, rfl⟩

theorem encode_eq_nil_iff {s : String} : encode s = [] ↔ s = "" := by
  constructor
  · intro h
    have hs := decode?_encode s
    rw [h] at hs
    exact (Option.some.inj hs).symm
  · rintro rfl
    rfl

theorem ofBytes_toBytes_append (us : List UInt16) (rest : List UInt8) :
    ofBytes (toBytes us ++ rest) = us ++ ofBytes rest := by
  induction us with
  | nil => rfl
  | cons u us ih =>
    have hunit : ((u.toNat % 256).toUInt8.toNat +
        (u.toNat / 256).toUInt8.toNat * 256).toUInt16 = u := by
      have hbound := u.toNat_lt
      have hlow : (u.toNat % 256).toUInt8.toNat = u.toNat % 256 := toNat_toUInt8 (by omega)
      have hhigh : (u.toNat / 256).toUInt8.toNat = u.toNat / 256 := toNat_toUInt8 (by omega)
      rw [hlow, hhigh, Nat.mod_add_div' u.toNat 256]
      exact UInt16.ofNat_toNat
    rw [toBytes, List.flatMap_cons, ← toBytes]
    simp only [List.cons_append, List.nil_append, ofBytes, hunit, ih]

theorem ofBytes_toBytes (us : List UInt16) : ofBytes (toBytes us) = us := by
  have hnil : ofBytes [] = [] := rfl
  have h := ofBytes_toBytes_append us []
  rwa [List.append_nil, hnil, List.append_nil] at h

/-- A byte that has no partner is left out. -/
theorem ofBytes_append_singleton {bytes : List UInt8} (h : bytes.length % 2 = 0) (b : UInt8) :
    ofBytes (bytes ++ [b]) = ofBytes bytes := by
  match bytes with
  | [] => rfl
  | [_] => cases h
  | low :: high :: rest =>
    have hrest : rest.length % 2 = 0 := by
      simp only [List.length_cons] at h
      omega
    simp only [List.cons_append, ofBytes, ofBytes_append_singleton hrest b]

/-! ## Well-formed units -/

/-- Units in which every surrogate is one of a pair, the high one before the low one. -/
inductive WellFormed : List UInt16 → Prop
  | nil : WellFormed []
  | plain {u : UInt16} {rest : List UInt16} (h : u.toNat < 0xD800 ∨ 0xE000 ≤ u.toNat)
    (hrest : WellFormed rest) : WellFormed (u :: rest)
  | pair {high low : UInt16} {rest : List UInt16}
    (hhigh : 0xD800 ≤ high.toNat ∧ high.toNat < 0xDC00)
    (hlow : 0xDC00 ≤ low.toNat ∧ low.toNat < 0xE000)
    (hrest : WellFormed rest) : WellFormed (high :: low :: rest)

theorem WellFormed.exists_decodeChars? {us : List UInt16} (h : WellFormed us) :
    ∃ cs, decodeChars? us = some cs := by
  induction h with
  | nil => exact ⟨[], rfl⟩
  | @plain u rest h _ ih =>
    obtain ⟨cs, hcs⟩ := ih
    have hhigh : isHigh u = false := by
      rw [← Bool.not_eq_true, isHigh_iff]
      omega
    have hlow : isLow u = false := by
      rw [← Bool.not_eq_true, isLow_iff]
      omega
    rw [decodeChars?_plain hhigh hlow, hcs]
    exact ⟨_, rfl⟩
  | pair hhigh hlow _ ih =>
    obtain ⟨cs, hcs⟩ := ih
    rw [decodeChars?_pair (isHigh_iff.mpr hhigh) (isLow_iff.mpr hlow), hcs]
    exact ⟨_, rfl⟩

theorem wellFormed_of_decodeChars? {us : List UInt16} {cs : List Char}
    (h : decodeChars? us = some cs) : WellFormed us := by
  fun_induction decodeChars? us generalizing cs with
  | case1 => exact .nil
  | case2 u hhigh low rest hlow ih =>
    obtain ⟨cs', hcs', -⟩ := Option.map_eq_some_iff.mp h
    exact .pair (isHigh_iff.mp hhigh) (isLow_iff.mp hlow) (ih hcs')
  | case3 => cases h
  | case4 => cases h
  | case5 => cases h
  | case6 u rest hhigh hlow ih =>
    obtain ⟨cs', hcs', -⟩ := Option.map_eq_some_iff.mp h
    rw [isHigh_iff] at hhigh
    rw [isLow_iff] at hlow
    exact .plain (by omega) (ih hcs')

/-- Just the well-formed units are some text. -/
theorem decode?_eq_none_iff {us : List UInt16} : decode? us = none ↔ ¬ WellFormed us := by
  rw [decode?, Option.map_eq_none_iff]
  constructor
  · intro h hwell
    obtain ⟨cs, hcs⟩ := hwell.exists_decodeChars?
    rw [h] at hcs
    cases hcs
  · intro h
    cases hcs : decodeChars? us with
    | none => rfl
    | some cs => exact absurd (wellFormed_of_decodeChars? hcs) h

end ServiceSupervisor.Text.Utf16
