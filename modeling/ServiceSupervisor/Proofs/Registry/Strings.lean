import ServiceSupervisor.Proofs.Registry.Value

/-!
  Proofs/Registry/Strings.lean --- what bytes of the registry are read as, whatever they are.

  Text is read as it was written, up to where a string or a list is closed, and a writer
  that leaves the closing zeros out is understood all the same.  Bytes that are no text are
  told from it, and no byte is looked for where there is none.
-/

set_option autoImplicit false

namespace ServiceSupervisor.Registry.Data

open Settings (Value)
open Text.Utf16 (decode? decode?_encode decode?_eq_none_iff encode ofBytes
  ofBytes_append_singleton ofBytes_toBytes ofBytes_toBytes_append toBytes WellFormed
  zero_mem_encode_iff)

variable {xs : List String} {s : String} {bytes : List UInt8}

/-! ## Chunks -/

theorem chunks_congr {bytes' : List UInt8} (h : ofBytes bytes = ofBytes bytes') :
    chunks bytes = chunks bytes' := by
  rw [chunks, chunks, h]

/-- A list is read from its chunks alone. -/
theorem textList_congr {bytes' : List UInt8} (h : chunks bytes = chunks bytes') :
    textList bytes = textList bytes' := by
  rw [textList, textList, strings_eq, strings_eq, h]

/-- A single text is read from the first chunk alone, which may be empty. -/
theorem text_of_chunks {chunk : List UInt16} {rest : List (List UInt16)}
    (h : chunks bytes = chunk :: rest) :
    text bytes =
      match decode? chunk with
      | some s => .text s
      | none => .other "invalid UTF-16 string" := by
  rw [text, strings_eq, h]
  cases chunk with
  | nil => rfl
  | cons u us =>
    rw [List.takeWhile_cons_of_pos (by simp), List.map_cons]
    cases decode? (u :: us) <;> rfl

theorem exists_chunks (bytes : List UInt8) : ∃ chunk rest, chunks bytes = chunk :: rest :=
  List.exists_cons_of_ne_nil (Text.split_ne_nil 0 _)

theorem text_congr {bytes' : List UInt8} (h : chunks bytes = chunks bytes') :
    text bytes = text bytes' := by
  obtain ⟨chunk, rest, hchunks⟩ := exists_chunks bytes
  rw [text_of_chunks hchunks, text_of_chunks (h ▸ hchunks)]

/-! ## What was written -/

theorem chunks_encode (hplain : '\x00' ∉ s.toList) : chunks (toBytes (encode s)) = [encode s] := by
  rw [chunks, ofBytes_toBytes, Text.split_of_not_mem (mt zero_mem_encode_iff.mp hplain)]

/-! ## What is no text -/

theorem textList_eq_other_iff : (∃ type, textList bytes = .other type) ↔
    ∃ chunk ∈ (chunks bytes).takeWhile (· ≠ []), ¬ WellFormed chunk := by
  have hnone : (strings bytes).mapM id = none ↔
      ∃ chunk ∈ (chunks bytes).takeWhile (· ≠ []), ¬ WellFormed chunk := by
    rw [Text.mapM_id_eq_none_iff, strings_eq, List.mem_map]
    simp only [decode?_eq_none_iff]
  rw [← hnone, textList]
  cases (strings bytes).mapM id with
  | none => exact iff_of_true ⟨_, rfl⟩ rfl
  | some xs =>
    refine iff_of_false ?_ (by simp)
    rintro ⟨type, htype⟩
    cases htype

theorem text_eq_other_iff {chunk : List UInt16} {rest : List (List UInt16)}
    (h : chunks bytes = chunk :: rest) :
    (∃ type, text bytes = .other type) ↔ ¬ WellFormed chunk := by
  rw [← decode?_eq_none_iff, text_of_chunks h]
  cases decode? chunk with
  | none => exact iff_of_true ⟨_, rfl⟩ rfl
  | some s =>
    refine iff_of_false ?_ (by simp)
    rintro ⟨type, htype⟩
    cases htype

/-! ## Looking bytes up -/

/-- The first bytes, each looked up at its place; `none` if there is none at one of them. -/
def bytesAt? (bytes : List UInt8) (width : Nat) : Option (List UInt8) :=
  (List.range width).mapM (bytes[·]?)

/-- The unit that two bytes next to each other write, looked up at their places. -/
def unitAt? (bytes : List UInt8) (i : Nat) : Option UInt16 := do
  let low ← bytes[2 * i]?
  let high ← bytes[2 * i + 1]?
  pure (low.toNat + high.toNat * 256).toUInt16

/-- The units of as many pairs as the bytes make up. -/
def unitsAt? (bytes : List UInt8) : Option (List UInt16) :=
  (List.range (bytes.length / 2)).mapM (unitAt? bytes)

/-- The number in the first `width` bytes, put in order, if there are that many. -/
def numberAt? (bytes : List UInt8) (width : Nat) (order : List UInt8 → List UInt8)
    (refusal : String) : Option Value :=
  if width ≤ bytes.length then
    (bytesAt? bytes width).map fun bytes => .integer (number (order bytes))
  else some (.other refusal)

/-- The setting that data holds, with every byte looked up at its place; `none` if there is
none where one is looked for. -/
def decodeAt? (d : Data) : Option Value :=
  match d.type with
  | 1 => (unitsAt? d.bytes).map fun us => text (toBytes us)
  | 2 => (unitsAt? d.bytes).map fun us => text (toBytes us)
  | 4 => numberAt? d.bytes 4 id "registry type 4"
  | 5 => numberAt? d.bytes 4 List.reverse "registry type 5"
  | 7 => (unitsAt? d.bytes).map fun us => textList (toBytes us)
  | 11 => numberAt? d.bytes 8 id "registry type 11"
  | n => some (.other ("registry type " ++ toString n))

theorem bytesAt?_eq {width : Nat} (h : width ≤ bytes.length) :
    bytesAt? bytes width = some (bytes.take width) := by
  induction width with
  | zero => rfl
  | succ width ih =>
    have hlast : bytes[width]? = some bytes[width] := List.getElem?_eq_getElem h
    have hfirst := ih (Nat.le_of_succ_le h)
    rw [bytesAt?] at hfirst ⊢
    rw [List.range_succ, List.mapM_append, hfirst, List.take_add_one, hlast]
    simp [hlast]

theorem unitsAt?_eq (bytes : List UInt8) : unitsAt? bytes = some (ofBytes bytes) := by
  match bytes with
  | [] => rfl
  | [_] => simp [unitsAt?, ofBytes]
  | low :: high :: rest =>
    have hlength : (low :: high :: rest).length / 2 = rest.length / 2 + 1 := by
      simp only [List.length_cons]
      omega
    have hrest := unitsAt?_eq rest
    rw [unitsAt?] at hrest ⊢
    rw [hlength, List.range_succ_eq_map, List.mapM_cons, List.mapM_map]
    -- each pair of the rest stands two bytes later in the whole
    have hshift : unitAt? (low :: high :: rest) ∘ Nat.succ = unitAt? rest := rfl
    rw [hshift, hrest]
    rfl

theorem numberAt?_eq (bytes : List UInt8) (width : Nat) (order : List UInt8 → List UInt8)
    (refusal : String) : numberAt? bytes width order refusal =
      some (if width ≤ bytes.length then .integer (number (order (bytes.take width)))
        else .other refusal) := by
  rw [numberAt?]
  split
  · next h =>
    rw [bytesAt?_eq h]
    rfl
  · rfl

theorem chunks_toBytes_ofBytes (bytes : List UInt8) :
    chunks (toBytes (ofBytes bytes)) = chunks bytes := chunks_congr (ofBytes_toBytes _)

/-- Every byte that is looked for is there. -/
theorem decodeAt?_eq (d : Data) : d.decodeAt? = some d.decode := by
  have htext : (unitsAt? d.bytes).map (fun us => text (toBytes us)) = some (text d.bytes) := by
    rw [unitsAt?_eq, Option.map_some, text_congr (chunks_toBytes_ofBytes _)]
  have hlist : (unitsAt? d.bytes).map (fun us => textList (toBytes us)) =
      some (textList d.bytes) := by
    rw [unitsAt?_eq, Option.map_some, textList_congr (chunks_toBytes_ofBytes _)]
  obtain ⟨type, bytes⟩ := d
  match type with
  | 1 => exact htext
  | 2 => exact htext
  | 4 => exact numberAt?_eq bytes 4 id _
  | 5 => exact numberAt?_eq bytes 4 List.reverse _
  | 7 => exact hlist
  | 11 => exact numberAt?_eq bytes 8 id _
  | 0 | 3 | 6 | 8 | 9 | 10 => rfl
  | n + 12 => rfl

/-! ## All of it -/

/-- How text of the registry is read: `7` is the type of a list of strings, `1` and `2` are
those of a single one. -/
structure ReadsText : Prop where
  /-- strings with a zero behind each, one more behind the last and anything after that are
  read up to the first empty one; -/
  closed : ∀ (xs : List String) (rest : List UInt8), (∀ s ∈ xs, '\x00' ∉ s.toList) →
    decode ⟨7, toBytes (closedUnits xs ++ [0]) ++ rest⟩ = .textList (xs.takeWhile (· ≠ ""))
  /-- if none is empty, it does not matter when the zero that closes the list is left out, -/
  unclosed : ∀ xs : List String, (∀ s ∈ xs, '\x00' ∉ s.toList) → (∀ s ∈ xs, s ≠ "") →
    decode ⟨7, toBytes (closedUnits xs)⟩ = .textList xs
  /-- nor when that of the last string is, too -/
  lastUnclosed : ∀ (xs : List String) (s : String), (∀ t ∈ xs ++ [s], '\x00' ∉ t.toList) →
    (∀ t ∈ xs ++ [s], t ≠ "") →
    decode ⟨7, toBytes (closedUnits xs ++ encode s)⟩ = .textList (xs ++ [s])
  /-- a single string is read without a zero behind it, -/
  single : ∀ type, type = 1 ∨ type = 2 → ∀ s : String, '\x00' ∉ s.toList →
    decode ⟨type, toBytes (encode s)⟩ = .text s
  /-- and with one, whatever comes then -/
  singleClosed : ∀ type, type = 1 ∨ type = 2 → ∀ (s : String) (rest : List UInt8),
    '\x00' ∉ s.toList → decode ⟨type, toBytes (encode s ++ [0]) ++ rest⟩ = .text s
  /-- an odd byte at the end is ignored -/
  odd : ∀ type, type = 1 ∨ type = 2 ∨ type = 7 → ∀ (bytes : List UInt8) (b : UInt8),
    bytes.length % 2 = 0 → decode ⟨type, bytes ++ [b]⟩ = decode ⟨type, bytes⟩
  /-- a list is refused just for an ill-formed string before the first empty one, -/
  other_iff : ∀ bytes, (∃ type, decode ⟨7, bytes⟩ = .other type) ↔
    ∃ chunk ∈ (chunks bytes).takeWhile (· ≠ []), ¬ WellFormed chunk
  /-- and a single string just if it is ill-formed itself -/
  single_other_iff : ∀ type, type = 1 ∨ type = 2 → ∀ bytes,
    (∃ other, decode ⟨type, bytes⟩ = .other other) ↔
      ∃ chunk ∈ (chunks bytes).head?, ¬ WellFormed chunk
  /-- no byte is looked for where there is none, whatever the type -/
  decodeAt?_eq : ∀ d : Data, d.decodeAt? = some d.decode

theorem decode_of_isSingle {type : Nat} (h : type = 1 ∨ type = 2) (bytes : List UInt8) :
    decode ⟨type, bytes⟩ = text bytes := by
  rcases h with rfl | rfl <;> rfl

theorem text_of_encode {rest : List (List UInt16)} (h : chunks bytes = encode s :: rest) :
    text bytes = .text s := by
  rw [text_of_chunks h, decode?_encode]

/-- Text is read from the registry as it was written there, and what is no text is told
from it. -/
theorem readsText : ReadsText where
  closed := by
    intro xs rest hplain
    exact textList_of_chunks (chunks_closedUnits hplain [0] rest) (by simp [Text.split])
  unclosed := by
    intro xs hplain hsome
    have hchunks := chunks_closedUnits hplain [] []
    rw [List.append_nil, List.append_nil] at hchunks
    have htext := textList_of_chunks hchunks rfl
    rwa [takeWhile_of_forall_ne hsome] at htext
  lastUnclosed := by
    intro xs s hplain hsome
    have hxs : ∀ t ∈ xs, '\x00' ∉ t.toList := fun t ht => hplain t (List.mem_append_left _ ht)
    have hs : '\x00' ∉ s.toList := hplain s (List.mem_append_right _ List.mem_cons_self)
    have hchunks : chunks (toBytes (closedUnits xs ++ encode s)) =
        (xs ++ [s]).map encode ++ [] := by
      have hnil : ofBytes [] = [] := rfl
      have h := chunks_closedUnits hxs (encode s) []
      rw [List.append_nil, hnil, List.append_nil,
        Text.split_of_not_mem (mt zero_mem_encode_iff.mp hs)] at h
      rw [h, List.map_append, List.append_nil, List.map_singleton]
    have htext := textList_of_chunks hchunks rfl
    rwa [takeWhile_of_forall_ne hsome] at htext
  single := by
    intro type htype s hplain
    rw [decode_of_isSingle htype]
    exact text_of_encode (chunks_encode hplain)
  singleClosed := by
    intro type htype s rest hplain
    rw [decode_of_isSingle htype]
    apply text_of_encode
    rw [chunks, ofBytes_toBytes_append, List.append_assoc]
    exact Text.split_append_cons (mt zero_mem_encode_iff.mp hplain) (ofBytes rest)
  odd := by
    intro type htype bytes b heven
    have hchunks := chunks_congr (ofBytes_append_singleton heven b)
    rcases htype with h | h | rfl
    · rw [decode_of_isSingle (Or.inl h), decode_of_isSingle (Or.inl h), text_congr hchunks]
    · rw [decode_of_isSingle (Or.inr h), decode_of_isSingle (Or.inr h), text_congr hchunks]
    · exact textList_congr hchunks
  other_iff := fun _ => textList_eq_other_iff
  single_other_iff := by
    intro type htype bytes
    obtain ⟨chunk, rest, hchunks⟩ := exists_chunks bytes
    rw [decode_of_isSingle htype, text_eq_other_iff hchunks, hchunks]
    simp
  decodeAt?_eq := decodeAt?_eq

end ServiceSupervisor.Registry.Data
