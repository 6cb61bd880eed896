import Mathlib.Data.List.Infix
import ServiceSupervisor.Files.Tree
import ServiceSupervisor.Proofs.Files.Path

/-!
  Proofs/Files/Tree.lean --- what the operations on a tree change, and where paths lead
  afterwards.
-/

set_option autoImplicit false

namespace ServiceSupervisor.Tree

variable {t t' t'' : Tree} {p q from' : Place} {i j : Item} {s path : String}
  {xs ys : List String}

/-! ## One place -/

@[simp]
theorem get?_nil (t : Tree) : t.get? [] = some .folder := rfl

theorem find?_without (items : List (Place × Item)) (h : q ≠ p) :
    (items.filter fun e => e.1 ≠ p).find? (fun e => e.1 = q) = items.find? fun e => e.1 = q := by
  rw [List.find?_filter]
  refine congrArg (items.find? ·) (funext fun e => ?_)
  by_cases he : e.1 = q
  · simp [he, h]
  · simp [he]

theorem get?_put_self (h : p ≠ []) : (t.put p i).get? p = some i := by
  simp [get?, put, h]

theorem get?_put_of_ne (h : q ≠ p) : (t.put p i).get? q = t.get? q := by
  simp only [get?, put]
  rw [List.find?_cons_of_neg (by simpa using h.symm), find?_without t.items h]

theorem get?_erase_self (h : p ≠ []) : (t.erase p).get? p = none := by
  simp [get?, erase, h]

theorem get?_erase_of_ne (h : q ≠ p) : (t.erase p).get? q = t.get? q := by
  simp only [get?, erase]
  rw [find?_without t.items h]

theorem put_put : (t.put p i).put p j = t.put p j := by
  simp [put]

theorem mode?_allow_self (t : Tree) (p : Place) (mode : Option Nat) :
    (t.allow p mode).mode? p = mode := by
  cases mode <;> simp [mode?, allow]

/-- Something stands only in a folder. -/
def Rooted (t : Tree) : Prop := ∀ p s i, t.get? (p ++ [s]) = some i → t.get? p = some .folder

/-- The two trees have the same folders. -/
structure SameFolders (t t' : Tree) : Prop where
  here_eq : t'.here = t.here
  folder_iff : ∀ p, t'.get? p = some .folder ↔ t.get? p = some .folder

theorem ne_nil_of_not_folder (h : t.get? p ≠ some .folder) : p ≠ [] :=
  fun hp => h (hp ▸ get?_nil t)

theorem sameFolders_put_file {content : List UInt8} (h : t.get? p ≠ some .folder) :
    SameFolders t (t.put p (.file content)) := by
  refine ⟨rfl, fun q => ?_⟩
  by_cases hq : q = p
  · simp [hq, get?_put_self (ne_nil_of_not_folder h), h]
  · rw [get?_put_of_ne hq]

theorem sameFolders_erase (h : t.get? p ≠ some .folder) : SameFolders t (t.erase p) := by
  refine ⟨rfl, fun q => ?_⟩
  by_cases hq : q = p
  · simp [hq, get?_erase_self (ne_nil_of_not_folder h), h]
  · rw [get?_erase_of_ne hq]

/-- Permissions make no folder. -/
theorem SameFolders.withModes (h : SameFolders t t') (modes : List (Place × Nat)) :
    SameFolders t { t' with modes } :=
  ⟨h.here_eq, h.folder_iff⟩

theorem SameFolders.trans (h : SameFolders t t') (h' : SameFolders t' t'') : SameFolders t t'' :=
  ⟨h'.here_eq.trans h.here_eq, fun p => (h'.folder_iff p).trans (h.folder_iff p)⟩

/-- A file that was put and erased again has left no folder behind, and taken none away. -/
theorem sameFolders_erase_put (h : t.get? p ≠ some .folder) (content : List UInt8) :
    SameFolders t ((t.put p (.file content)).erase p) := by
  have hput : SameFolders t (t.put p (.file content)) := sameFolders_put_file h
  exact hput.trans (sameFolders_erase (mt (hput.folder_iff p).mp h))

theorem SameFolders.symm (h : SameFolders t t') : SameFolders t' t :=
  ⟨h.here_eq.symm, fun p => (h.folder_iff p).symm⟩

theorem rooted_of_items (h : ∀ e ∈ t.items, t.get? e.1.dropLast = some .folder) : t.Rooted := by
  intro p s i hp
  rw [get?, if_neg (List.concat_ne_nil s p), Option.map_eq_some_iff] at hp
  obtain ⟨e, hfind, -⟩ := hp
  have hplace : e.1 = p ++ [s] := by simpa using List.find?_some hfind
  have hfolder := h e (List.mem_of_find?_eq_some hfind)
  rwa [hplace, List.dropLast_concat] at hfolder

namespace Rooted

theorem put (h : t.Rooted) (hp : t.get? p ≠ some .folder)
    (hparent : t.get? p.dropLast = some .folder) :
    (t.put p i).Rooted := by
  intro q s i' hq
  have hne := ne_nil_of_not_folder hp
  by_cases hself : q = p
  · have hchild : q ++ [s] ≠ p := by simp [hself]
    rw [get?_put_of_ne hchild] at hq
    exact absurd (hself ▸ h q s i' hq) hp
  rw [get?_put_of_ne hself]
  by_cases hlast : q ++ [s] = p
  · rwa [← hlast, List.dropLast_concat] at hparent
  · rw [get?_put_of_ne hlast] at hq
    exact h q s i' hq

theorem put_concat (h : t.Rooted) (hp : t.get? p = some .folder)
    (hfree : t.get? (p ++ [s]) ≠ some .folder) : (t.put (p ++ [s]) i).Rooted :=
  h.put hfree (by rwa [List.dropLast_concat])

theorem withModes (h : t.Rooted) (modes : List (Place × Nat)) : Rooted { t with modes } := h

theorem erase (h : t.Rooted) (hp : t.get? p ≠ some .folder) : (t.erase p).Rooted := by
  intro q s i' hq
  have hne := ne_nil_of_not_folder hp
  have hlast : q ++ [s] ≠ p := by
    intro hlast
    rw [hlast, get?_erase_self hne] at hq
    cases hq
  rw [get?_erase_of_ne hlast] at hq
  have hself : q ≠ p := fun hself => hp (hself ▸ h q s i' hq)
  rw [get?_erase_of_ne hself]
  exact h q s i' hq

/-- Above a folder there are only folders. -/
theorem folder_above (h : t.Rooted) (hq : t.get? q = some .folder) (hp : p <+: q) :
    t.get? p = some .folder := by
  obtain ⟨rest, rfl⟩ := hp
  induction rest using List.reverseRecOn with
  | nil => rwa [List.append_nil] at hq
  | append_singleton rest s ih =>
    rw [← List.append_assoc] at hq
    exact ih (h _ s _ hq)

theorem folder_dropLast (h : t.Rooted) (hp : t.get? p = some .folder) :
    t.get? p.dropLast = some .folder :=
  h.folder_above hp <| List.dropLast_prefix p

end Rooted

/-! ## Walking -/

/-- Where a segment leads from a folder. -/
def after (p : Place) (s : String) : Place :=
  if s = "" ∨ s = "." then p else if s = ".." then p.dropLast else p ++ [s]

theorem after_of_plain (h : s ∉ ["", ".", ".."]) : after p s = p ++ [s] := by
  simp only [List.mem_cons, List.not_mem_nil, or_false, not_or] at h
  rw [after, if_neg (not_or.mpr ⟨h.1, h.2.1⟩), if_neg h.2.2]

/-- Whoever walks on leaves a folder. -/
theorem walk_cons_eq_ok_iff :
    t.walk p (s :: xs) = .ok q ↔
      t.get? p = some .folder ∧ s.utf8ByteSize ≤ maxSegment ∧ t.walk (after p s) xs = .ok q := by
  rw [walk, after]
  cases hp : t.get? p with
  | none => simp
  | some item =>
    cases item with
    | file content => simp
    | folder =>
      by_cases hstay : s = "" ∨ s = "."
      · have hsize : s.utf8ByteSize ≤ maxSegment := by rcases hstay with rfl | rfl <;> decide
        simp [hstay, hsize]
      by_cases hup : s = ".."
      · have hsize : "..".utf8ByteSize ≤ maxSegment := by decide
        subst hup
        simp [hsize]
      by_cases hsize : s.utf8ByteSize > maxSegment
      · simp [hstay, hup, hsize, not_le.mpr hsize]
      · simp [hstay, hup, hsize, not_lt.mp hsize]

theorem walk_append_eq_ok_iff :
    t.walk p (xs ++ ys) = .ok q ↔ ∃ m, t.walk p xs = .ok m ∧ t.walk m ys = .ok q := by
  induction xs generalizing p with
  | nil => simp [walk]
  | cons s xs ih =>
    simp only [List.cons_append, walk_cons_eq_ok_iff, ih]
    constructor
    · rintro ⟨hp, hs, m, hm, hq⟩
      exact ⟨m, ⟨hp, hs, hm⟩, hq⟩
    · rintro ⟨m, ⟨hp, hs, hm⟩, hq⟩
      exact ⟨hp, hs, m, hm, hq⟩

/-- An empty segment leads nowhere, if another segment follows. -/
theorem walk_append_empty_eq_ok_iff :
    t.walk p (xs ++ "" :: s :: ys) = .ok q ↔ t.walk p (xs ++ s :: ys) = .ok q := by
  have hempty : ∀ m, t.walk m ("" :: s :: ys) = .ok q ↔ t.walk m (s :: ys) = .ok q := by
    intro m
    have hsize : "".utf8ByteSize ≤ maxSegment := by decide
    simp only [walk_cons_eq_ok_iff (s := ""), hsize, true_and, after, true_or, if_true]
    exact and_iff_right_of_imp fun h => (walk_cons_eq_ok_iff.mp h).1
  simp only [walk_append_eq_ok_iff, hempty]

/-- With more folders one still gets to wherever one got. -/
theorem walk_mono (hfolders : ∀ p, t.get? p = some .folder → t'.get? p = some .folder)
    (h : t.walk p xs = .ok q) : t'.walk p xs = .ok q := by
  induction xs generalizing p with
  | nil => exact h
  | cons s xs ih =>
    obtain ⟨hp, hs, hrest⟩ := walk_cons_eq_ok_iff.mp h
    exact walk_cons_eq_ok_iff.mpr ⟨hfolders p hp, hs, ih hrest⟩

/-- The segments of `xs` that lead somewhere. -/
def leading (xs : List String) : List String := xs.filter fun s => s ≠ "" ∧ s ≠ "."

theorem leading_cons_of_stays (h : s = "" ∨ s = ".") : leading (s :: xs) = leading xs := by
  rcases h with rfl | rfl <;> rfl

theorem leading_cons_of_leads (h : ¬(s = "" ∨ s = ".")) : leading (s :: xs) = s :: leading xs :=
  List.filter_cons_of_pos (by simpa using h)

theorem walk_leading (h : t.walk p xs = .ok q) : t.walk p (leading xs) = .ok q := by
  induction xs generalizing p with
  | nil => exact h
  | cons s xs ih =>
    obtain ⟨hp, hs, hrest⟩ := walk_cons_eq_ok_iff.mp h
    by_cases hstays : s = "" ∨ s = "."
    · rw [after, if_pos hstays] at hrest
      rw [leading_cons_of_stays hstays]
      exact ih hrest
    · rw [leading_cons_of_leads hstays]
      exact walk_cons_eq_ok_iff.mpr ⟨hp, hs, ih hrest⟩

/-- Without a step up, each segment goes on from the last. -/
theorem eq_append_of_walk (hup : ".." ∉ xs) (h : t.walk p xs = .ok q) : q = p ++ leading xs := by
  induction xs generalizing p with
  | nil =>
    cases h
    exact (List.append_nil q).symm
  | cons s xs ih =>
    obtain ⟨hp, hs, hrest⟩ := walk_cons_eq_ok_iff.mp h
    rw [List.mem_cons, not_or] at hup
    rw [ih hup.2 hrest]
    by_cases hstays : s = "" ∨ s = "."
    · rw [after, if_pos hstays, leading_cons_of_stays hstays]
    · rw [after, if_neg hstays, if_neg (Ne.symm hup.1), leading_cons_of_leads hstays,
        List.append_assoc, List.singleton_append]

/-- In a rooted tree, what does not exist yet has a folder around it. -/
theorem Rooted.folder_of_walk (h : t.Rooted) (hxs : xs ≠ []) (hp : t.walk p xs = .ok q) :
    t.get? q.dropLast = some .folder := by
  obtain ⟨before, s, rfl⟩ := (List.eq_nil_or_concat xs).resolve_left hxs
  obtain ⟨m, -, hlast⟩ := walk_append_eq_ok_iff.mp (List.concat_eq_append ▸ hp)
  obtain ⟨hm, -, hq⟩ := walk_cons_eq_ok_iff.mp hlast
  cases hq
  rw [after]
  split
  · exact h.folder_dropLast hm
  · split
    · exact h.folder_dropLast (h.folder_dropLast hm)
    · rwa [List.dropLast_concat]

/-! ## Paths -/

variable {base name : String}

/-- Where a path leads, however long it is written. -/
def leads (t : Tree) (path : String) : Except FileError Place :=
  t.walk (t.start path) (Path.segments path)

/-- What stands where a path leads. -/
def at? (t : Tree) (path : String) : Option Item := (t.locate path).toOption.bind t.get?

/-- The permissions that were given to what stands where a path leads. -/
def modeAt? (t : Tree) (path : String) : Option Nat := (t.locate path).toOption.bind t.mode?

theorem locate_eq_ok_iff :
    t.locate path = .ok p ↔ refusal path = none ∧ t.leads path = .ok p := by
  rw [locate]
  cases refusal path with
  | none => simp [leads, Path.segments]
  | some e => simp

theorem start_eq (h : t'.here = t.here) (path : String) : t'.start path = t.start path := by
  rw [start, start, h]

theorem leads_mono (hhere : t'.here = t.here)
    (hfolders : ∀ p, t.get? p = some .folder → t'.get? p = some .folder)
    (h : t.leads path = .ok p) : t'.leads path = .ok p := by
  rw [leads, start_eq hhere]
  exact walk_mono hfolders h

namespace SameFolders

theorem leads_iff (h : SameFolders t t') : t'.leads path = .ok p ↔ t.leads path = .ok p :=
  ⟨leads_mono h.symm.here_eq fun p => (h.folder_iff p).mp,
    leads_mono h.here_eq fun p => (h.folder_iff p).mpr⟩

theorem locate_iff (h : SameFolders t t') : t'.locate path = .ok p ↔ t.locate path = .ok p := by
  rw [locate_eq_ok_iff, locate_eq_ok_iff, h.leads_iff]

end SameFolders

/-- A joined path leads where the folder's does, and one segment on. -/
theorem leads_join_eq_ok_iff (hslash : '/' ∉ name.toList) :
    t.leads (Path.join base name) = .ok q ↔
      ∃ d, t.leads base = .ok d ∧ t.walk d [name] = .ok q := by
  obtain ⟨front, hjoin, hbase⟩ := Path.segments_join base hslash
  have hstart : t.start (Path.join base name) = t.start base := by
    rw [start, start, Path.isAbsolute_join base hslash]
  rw [leads, leads, hjoin, hstart, ← walk_append_eq_ok_iff]
  rcases hbase with hbase | hbase
  · rw [hbase]
  · rw [hbase, List.append_assoc]
    exact walk_append_empty_eq_ok_iff.symm

/-- Where a path leads when its dots are followed, whatever folders there are. -/
def resolved (here : Place) (path : String) : Place :=
  (Path.segments path).foldl after (if Path.isAbsolute path then [] else here)

theorem eq_foldl_after_of_walk (h : t.walk p xs = .ok q) : q = xs.foldl after p := by
  induction xs generalizing p with
  | nil =>
    cases h
    rfl
  | cons s xs ih => exact ih (walk_cons_eq_ok_iff.mp h).2.2

/-- In no tree does a path lead elsewhere. -/
theorem eq_resolved_of_leads (h : t.leads path = .ok p) : p = resolved t.here path :=
  eq_foldl_after_of_walk h

theorem resolved_join (here : Place) (base : String) (hslash : '/' ∉ name.toList) :
    resolved here (Path.join base name) = after (resolved here base) name := by
  obtain ⟨front, hjoin, hbase⟩ := Path.segments_join base hslash
  rw [resolved, resolved, hjoin, Path.isAbsolute_join base hslash, List.foldl_append]
  rcases hbase with hbase | hbase
  · rw [hbase]
    rfl
  · rw [hbase, List.foldl_append]
    rfl

theorem steps_eq_leading (path : String) : Path.steps path = leading (Path.segments path) := by
  rw [Path.steps, leading, Path.segments, List.filter_map]
  refine congrArg _ (List.filter_congr fun cs _ => ?_)
  simp [Function.comp, ← String.toList_inj]

/-! ## Files -/

variable {content : List UInt8}

/-- A file is read as what stands where its path leads. -/
theorem readFile_eq_ok_iff : t.readFile path = .ok content ↔ t.at? path = some (.file content) := by
  rw [readFile, at?]
  cases t.locate path with
  | error e => simp [bind, Except.bind, Except.toOption]
  | ok p =>
    simp only [bind, Except.bind, Except.toOption, Option.bind_some]
    split
    · next h => simp [h]
    · next h => simp [h]
    · next content' h => simp [h]

theorem writeFile_eq_ok_iff :
    t.writeFile path content = .ok t' ↔
      ∃ p, t.locate path = .ok p ∧ t.get? p ≠ some .folder ∧ t.put p (.file content) = t' := by
  rw [writeFile]
  cases t.locate path with
  | error e => simp [bind, Except.bind]
  | ok p =>
    simp only [bind, Except.bind]
    split
    · next h => simp [h]
    · next h =>
      have hfree : ¬ t.get? p = some .folder := h
      simp [hfree]

theorem exists_of_permit {mode : Nat} (h : t.permit path mode = .ok t') :
    ∃ p, t.locate path = .ok p ∧ t.allow p (some mode) = t' := by
  rw [permit] at h
  cases hlocate : t.locate path with
  | error e => simp [hlocate, bind, Except.bind] at h
  | ok p =>
    simp only [hlocate, bind, Except.bind] at h
    split at h
    · cases h
    · cases h
      exact ⟨p, rfl, rfl⟩

theorem exists_of_moveFile {source target : String} (h : t.moveFile source target = .ok t') :
    ∃ p q content, t.locate source = .ok p ∧ t.locate target = .ok q ∧
      t.get? p = some (.file content) ∧ t.get? q ≠ some .folder ∧
      ((t.erase p).put q (.file content)).allow q (t.mode? p) = t' := by
  rw [moveFile] at h
  cases hsource : t.locate source with
  | error e => simp [hsource, bind, Except.bind] at h
  | ok p =>
    cases htarget : t.locate target with
    | error e => simp [hsource, htarget, bind, Except.bind] at h
    | ok q =>
      simp only [hsource, htarget, bind, Except.bind] at h
      split at h
      · cases h
      · cases h
      · next item hfolder hp =>
        split at h
        · cases h
        · next hq =>
          cases h
          cases item with
          | folder => exact absurd rfl hfolder
          | file content => exact ⟨p, q, content, rfl, rfl, hp, hq, rfl⟩

theorem removeFile_eq_ok_iff :
    t.removeFile path = .ok t' ↔
      ∃ p content, t.locate path = .ok p ∧ t.get? p = some (.file content) ∧ t.erase p = t' := by
  rw [removeFile]
  cases t.locate path with
  | error e => simp [bind, Except.bind]
  | ok p =>
    simp only [bind, Except.bind]
    split
    · next h => simp [h]
    · next h => simp [h]
    · next content h => simp [h]

/-! ## Making folders -/

variable {segments : List String} {n : Nat}

/-- Nothing has become of a place but, where nothing was, a folder on the way along the
segments. -/
def Kept (t t' : Tree) (from' : Place) (segments : List String) (p : Place) : Prop :=
  t'.get? p = t.get? p ∨
    (t.get? p = none ∧ t'.get? p = some .folder ∧ ∃ n, t'.walk from' (segments.take n) = .ok p)

theorem Kept.trans_same (h : Kept t t' from' segments p) (hfolders : SameFolders t' t'')
    (hp : t''.get? p = t'.get? p) : Kept t t'' from' segments p := by
  rcases h with hsame | ⟨hnone, hfolder, n, hway⟩
  · exact Or.inl (hp.trans hsame)
  · exact Or.inr ⟨hnone, hp.trans hfolder, n,
      walk_mono (fun q => (hfolders.folder_iff q).mpr) hway⟩

/-- In any case the files are the same. -/
theorem Kept.file_iff (h : Kept t t' from' segments p) {content : List UInt8} :
    t'.get? p = some (.file content) ↔ t.get? p = some (.file content) := by
  rcases h with hsame | ⟨hnone, hfolder, -⟩
  · rw [hsame]
  · rw [hnone, hfolder]
    simp

/-- Nothing has changed but that there are more folders on the way along the segments. -/
structure Grown (t t' : Tree) (from' : Place) (segments : List String) : Prop where
  here_eq : t'.here = t.here
  kept : ∀ p, Kept t t' from' segments p
  rooted : t.Rooted → t'.Rooted

namespace Grown

theorem refl (t : Tree) (from' : Place) (segments : List String) : Grown t t from' segments :=
  ⟨rfl, fun _ => Or.inl rfl, id⟩

theorem folder (h : Grown t t' from' segments) (hp : t.get? p = some .folder) :
    t'.get? p = some .folder := by
  rcases h.kept p with hsame | ⟨-, hnew, -⟩
  · rw [hsame, hp]
  · exact hnew

theorem trans (h : Grown t t' from' segments) (h' : Grown t' t'' from' segments) :
    Grown t t'' from' segments := by
  refine ⟨h'.here_eq.trans h.here_eq, fun p => ?_, fun hrooted => h'.rooted (h.rooted hrooted)⟩
  rcases h.kept p with hsame | ⟨hnone, hfolder, n, hway⟩
  · rw [Kept, ← hsame]
    exact h'.kept p
  · exact Or.inr ⟨hnone, h'.folder hfolder, n, walk_mono (fun _ => h'.folder) hway⟩

end Grown

theorem grown_of_makeFolderAt (hn : n < segments.length)
    (h : t.makeFolderAt from' (segments.take (n + 1)) = .ok t') :
    Grown t t' from' segments := by
  have hne : segments.take (n + 1) ≠ [] := by
    rw [Ne, List.take_eq_nil_iff]
    rintro (hzero | rfl)
    · exact Nat.succ_ne_zero n hzero
    · exact Nat.not_lt_zero n hn
  rw [makeFolderAt] at h
  cases hwalk : t.walk from' (segments.take (n + 1)) with
  | error e => simp [hwalk, bind, Except.bind] at h
  | ok p =>
    simp only [hwalk, bind, Except.bind] at h
    cases hp : t.get? p with
    | some item => simp [hp] at h
    | none =>
      simp only [hp] at h
      cases h
      have hfree : t.get? p ≠ some .folder := by simp [hp]
      have hself : (t.put p .folder).get? p = some .folder :=
        get?_put_self (ne_nil_of_not_folder hfree)
      have hfolders : ∀ q, t.get? q = some .folder → (t.put p .folder).get? q = some .folder := by
        intro q hq
        by_cases hqp : q = p
        · rw [hqp, hself]
        · rw [get?_put_of_ne hqp, hq]
      refine ⟨rfl, fun q => ?_, fun hrooted => hrooted.put hfree (hrooted.folder_of_walk hne hwalk)⟩
      by_cases hqp : q = p
      · rw [hqp]
        exact Or.inr ⟨hp, hself, n + 1, walk_mono hfolders hwalk⟩
      · exact Or.inl (get?_put_of_ne hqp)

/-- The tree that is left when folders were made, or were not. -/
def remains : Except (FileError × Tree) Tree → Tree
  | .ok t => t
  | .error (_, t) => t

theorem grown_makeFoldersAt (t : Tree) (from' : Place) {segments : List String}
    (hn : n ≤ segments.length) :
    Grown t (remains (makeFoldersAt from' segments n t)) from' segments := by
  induction n generalizing t with
  | zero => exact .refl t from' segments
  | succ n ih =>
    rw [makeFoldersAt]
    split
    · next t' h => exact grown_of_makeFolderAt hn h
    · next h =>
      have hway := ih t (Nat.le_of_succ_le hn)
      cases hmade : makeFoldersAt from' segments n t with
      | error failure => simpa [hmade, bind, Except.bind] using hway
      | ok t' =>
        rw [hmade] at hway
        simp only [bind, Except.bind]
        split
        · next t'' h => exact hway.trans (grown_of_makeFolderAt hn h)
        · split <;> exact hway
    · split <;> exact .refl t from' segments

theorem grown_makeFirstFolders (t : Tree) (path : String) (n : Nat) :
    Grown t (remains (t.makeFirstFolders path n)) (t.start path) (Path.steps path) := by
  rw [makeFirstFolders]
  split
  · exact .refl t _ _
  · split
    · exact .refl t _ _
    · exact grown_makeFoldersAt t _ (Nat.min_le_right n _)

/-- On the way to a folder there are only folders. -/
theorem exists_walk_left (h : t.walk p (xs ++ ys) = .ok q) (hq : t.get? q = some .folder) :
    ∃ m, t.walk p xs = .ok m ∧ t.get? m = some .folder := by
  obtain ⟨m, hm, hrest⟩ := walk_append_eq_ok_iff.mp h
  refine ⟨m, hm, ?_⟩
  cases ys with
  | nil =>
    cases hrest
    exact hq
  | cons s ys => exact (walk_cons_eq_ok_iff.mp hrest).1

/-! ## Within a folder -/

/-- A path that leads to a folder that is there, or that takes no step up. -/
def Direct (t : Tree) (path : String) : Prop :=
  (∃ d, t.leads path = .ok d ∧ t.get? d = some .folder) ∨ ".." ∉ Path.segments path

/-- Without a step up, the folders on the way are around the one that the path leads to. -/
theorem length_le_of_way (hup : ".." ∉ Path.segments path) (h : t.leads path = .ok q)
    (hway : t.walk (t.start path) ((Path.steps path).take n) = .ok p) : p.length ≤ q.length := by
  have hsteps : ".." ∉ (Path.steps path).take n := by
    intro hmem
    rw [steps_eq_leading] at hmem
    exact hup (List.mem_of_mem_filter (List.mem_of_mem_take hmem))
  have htake :
      (leading ((Path.steps path).take n)).length ≤ (leading (Path.segments path)).length := by
    refine (List.length_filter_le _ _).trans ?_
    rw [← steps_eq_leading]
    exact (List.take_sublist n _).length_le
  rw [eq_append_of_walk hup h, eq_append_of_walk hsteps hway, List.length_append,
    List.length_append]
  exact Nat.add_le_add_left htake _

/-- In the folder itself nothing is new. -/
theorem Kept.eq_of_within {d : Place} (hhere : t'.here = t.here)
    (hfolders : ∀ p, t.get? p = some .folder → t'.get? p = some .folder)
    (hdirect : t.Direct path) (hd : t'.leads path = .ok d) (hp : d <+: p) (hne : p ≠ d)
    (h : Kept t t' (t.start path) (Path.steps path) p) : t'.get? p = t.get? p := by
  refine h.resolve_right ?_
  rintro ⟨hnone, -, n, hway⟩
  rcases hdirect with ⟨d', hd', hfolder⟩ | hup
  · -- the folder is there, and so are those on the way to it
    have hsteps : t.walk (t.start path) ((Path.steps path).take n ++ (Path.steps path).drop n) =
        .ok d' := by
      rw [List.take_append_drop, steps_eq_leading]
      exact walk_leading hd'
    obtain ⟨m, hm, hfolder⟩ := exists_walk_left hsteps hfolder
    have hsame : Except.ok m = Except.ok p := (walk_mono hfolders hm).symm.trans hway
    cases hsame
    rw [hnone] at hfolder
    cases hfolder
  · rw [← start_eq hhere] at hway
    have hlength := length_le_of_way hup hd hway
    exact hne (hp.eq_of_length_le hlength).symm

/-- In a rooted tree, where a path leads without a step up can be got to if it is there. -/
theorem Rooted.walk_of_folder (h : t.Rooted) (hq : t.get? q = some .folder) (hup : ".." ∉ xs)
    (hwalk : t'.walk p xs = .ok q) : t.walk p xs = .ok q := by
  induction xs generalizing p with
  | nil => exact hwalk
  | cons s xs ih =>
    have habove : p <+: q := ⟨_, (eq_append_of_walk hup hwalk).symm⟩
    obtain ⟨-, hs, hrest⟩ := walk_cons_eq_ok_iff.mp hwalk
    rw [List.mem_cons, not_or] at hup
    exact walk_cons_eq_ok_iff.mpr ⟨h.folder_above hq habove, hs, ih hup.2 hrest⟩

theorem Rooted.leads_of_folder {d : Place} (h : t.Rooted) (hhere : t'.here = t.here)
    (hfolders : ∀ p, t.get? p = some .folder → t'.get? p = some .folder)
    (hdirect : t.Direct path) (hd : t.get? d = some .folder) (hleads : t'.leads path = .ok d) :
    t.leads path = .ok d := by
  rcases hdirect with ⟨d', hd', -⟩ | hup
  · rw [hd', ← leads_mono hhere hfolders hd', hleads]
  · rw [leads, start_eq hhere] at hleads
    exact h.walk_of_folder hd hup hleads

theorem walk_singleton_eq_ok_iff (h : s ∉ ["", ".", ".."]) :
    t.walk p [s] = .ok q ↔
      t.get? p = some .folder ∧ s.utf8ByteSize ≤ maxSegment ∧ p ++ [s] = q := by
  rw [walk_cons_eq_ok_iff, after_of_plain h, walk, Except.ok.injEq]

/-- If nothing but folders on the way to a folder is new, the folder's path with a name leads
to what it led to before. -/
theorem at?_join_eq (hrooted : t.Rooted) (hhere : t'.here = t.here)
    (hfolders : ∀ p, t.get? p = some .folder → t'.get? p = some .folder)
    (hdirect : t.Direct base) (hslash : '/' ∉ name.toList) (hplain : name ∉ ["", ".", ".."])
    (hkept : ∀ d, t'.leads base = .ok d →
      Kept t t' (t.start base) (Path.steps base) (d ++ [name])) :
    t'.at? (Path.join base name) = t.at? (Path.join base name) := by
  have hsame : ∀ d, t'.leads base = .ok d → t'.get? (d ++ [name]) = t.get? (d ++ [name]) := by
    intro d hd
    exact (hkept d hd).eq_of_within hhere hfolders hdirect hd (List.prefix_append d [name])
      (by simp)
  rw [at?, at?]
  cases hlocate : t.locate (Path.join base name) with
  | ok q =>
    obtain ⟨hrefusal, hleads⟩ := locate_eq_ok_iff.mp hlocate
    obtain ⟨d, hd, hlast⟩ := (leads_join_eq_ok_iff hslash).mp hleads
    obtain ⟨-, -, rfl⟩ := (walk_singleton_eq_ok_iff hplain).mp hlast
    have hlocate' : t'.locate (Path.join base name) = .ok (d ++ [name]) :=
      locate_eq_ok_iff.mpr ⟨hrefusal, leads_mono hhere hfolders hleads⟩
    rw [hlocate']
    exact hsame d (leads_mono hhere hfolders hd)
  | error e =>
    cases hlocate' : t'.locate (Path.join base name) with
    | error e => rfl
    | ok q =>
      obtain ⟨hrefusal, hleads⟩ := locate_eq_ok_iff.mp hlocate'
      obtain ⟨d, hd, hlast⟩ := (leads_join_eq_ok_iff hslash).mp hleads
      obtain ⟨-, hsize, rfl⟩ := (walk_singleton_eq_ok_iff hplain).mp hlast
      refine (hsame d hd).trans (Option.eq_none_iff_forall_ne_some.mpr fun item hitem => ?_)
      -- what is there could have been got to before
      have hfolder : t.get? d = some .folder := hrooted d name item hitem
      have hbefore := hrooted.leads_of_folder hhere hfolders hdirect hfolder hd
      have hleads' : t.leads (Path.join base name) = .ok (d ++ [name]) :=
        (leads_join_eq_ok_iff hslash).mpr
          ⟨d, hbefore, (walk_singleton_eq_ok_iff hplain).mpr ⟨hfolder, hsize, rfl⟩⟩
      rw [locate_eq_ok_iff.mpr ⟨hrefusal, hleads'⟩] at hlocate
      cases hlocate

end ServiceSupervisor.Tree
