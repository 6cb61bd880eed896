import ServiceSupervisor.Proofs.Files.Tree
import ServiceSupervisor.Proofs.Sequence
import ServiceSupervisor.Proofs.Settings.OwnName
import ServiceSupervisor.Proofs.Text.Utf8
import ServiceSupervisor.Systemd.UnitFile

/-!
  Proofs/Systemd/UnitFile.lean --- a unit's file is whole or as it was.

  Whichever step of the writing fails, and whatever stands in the folder before, nothing in
  it changes but the unit's file and the temporary one; and the unit's file only when the
  writing succeeds.
-/

set_option autoImplicit false

namespace ServiceSupervisor.Systemd

open ServiceSupervisor.Tree (Grown Kept SameFolders)

/-! ## Names -/

/-- The name of the temporary file beside a unit's. -/
def temporaryName (name : OwnName) : String := name.text ++ ".service.tmp"

section Names

variable (name : OwnName)

theorem slash_not_mem_unitName : '/' ∉ (unitName name).toList := by
  simp [unitName, name.slash_not_mem_text]

theorem slash_not_mem_temporaryName : '/' ∉ (temporaryName name).toList := by
  simp [temporaryName, name.slash_not_mem_text]

theorem unitName_not_step : unitName name ∉ ["", ".", ".."] := Path.append_not_step (by decide) _

theorem temporaryName_not_step : temporaryName name ∉ ["", ".", ".."] :=
  Path.append_not_step (by decide) _

theorem unitName_ne_temporaryName (other : OwnName) : unitName name ≠ temporaryName other := by
  intro h
  have hlast := congrArg (fun s : String => s.toList.getLast?) h
  simp [unitName, temporaryName] at hlast

theorem unitName_injective {name other : OwnName} (h : unitName name = unitName other) :
    name = other :=
  OwnName.eq_of_text_eq ((String.append_left_inj _).mp h)

/-- The temporary file is named after the unit's, but for a single dot: that name and the dot
in front of the ending are no name. -/
theorem temporary_eq (u : UnitSpec) (folder : String) :
    u.temporary folder =
      Path.join folder (if u.name.text = "." then ".." else temporaryName u.name) := by
  have h := Path.withExtension_join folder u.name.text_ne_empty (u.name.slash_not_mem_text)
    "service" "service.tmp" (by decide) (by decide)
  have hpath : u.name.text ++ "." ++ "service" = unitName u.name := String.append_assoc ..
  have htemporary : u.name.text ++ "." ++ "service.tmp" = temporaryName u.name :=
    String.append_assoc ..
  rw [hpath, htemporary] at h
  rw [UnitSpec.temporary, UnitSpec.path, h]

/-- No temporary file is a unit's file, in whatever folders they are. -/
theorem temporary_ne_path (u v : UnitSpec) (folder folder' : String) :
    u.temporary folder ≠ v.path folder' := by
  intro h
  have hlast := congrArg (fun s : String => s.toList.getLast?) h
  rw [temporary_eq, UnitSpec.path, Path.join_of_not_mem folder' (slash_not_mem_unitName v.name)]
    at hlast
  split at hlast
  · rw [Path.join_of_not_mem folder (by decide)] at hlast
    simp [unitName] at hlast
  · rw [Path.join_of_not_mem folder (slash_not_mem_temporaryName u.name)] at hlast
    simp [unitName, temporaryName] at hlast

end Names

/-! ## Places -/

variable {u : UnitSpec} {folder : String} {t t₁ t' : Tree} {p d : Place}

namespace UnitSpec

/-- The place of the unit's file in a folder. -/
def place (u : UnitSpec) (d : Place) : Place := d ++ [unitName u.name]

/-- The place of the temporary file beside it. -/
def temporaryPlace (u : UnitSpec) (d : Place) : Place := d ++ [temporaryName u.name]

end UnitSpec

open UnitSpec

theorem place_ne_temporaryPlace (u v : UnitSpec) (d d' : Place) :
    u.place d ≠ v.temporaryPlace d' := by
  intro h
  have hlast := List.append_inj_right' h rfl
  exact unitName_ne_temporaryName u.name v.name (List.singleton_inj.mp hlast)

theorem place_ne_place {u v : UnitSpec} (h : u.name ≠ v.name) (d d' : Place) :
    u.place d ≠ v.place d' := by
  intro hplace
  have hlast := List.append_inj_right' hplace rfl
  exact h (unitName_injective (List.singleton_inj.mp hlast))

theorem exists_of_locate_path (h : t.locate (u.path folder) = .ok p) :
    ∃ d, t.leads folder = .ok d ∧ p = u.place d := by
  obtain ⟨-, hleads⟩ := Tree.locate_eq_ok_iff.mp h
  obtain ⟨d, hd, hlast⟩ := (Tree.leads_join_eq_ok_iff (slash_not_mem_unitName u.name)).mp hleads
  obtain ⟨-, -, hp⟩ := (Tree.walk_singleton_eq_ok_iff (unitName_not_step u.name)).mp hlast
  exact ⟨d, hd, hp.symm⟩

/-- A temporary file stands beside the unit's: two dots lead to a folder. -/
theorem exists_of_locate_temporary (hrooted : t.Rooted) (h : t.locate (u.temporary folder) = .ok p)
    (hp : t.get? p ≠ some .folder) :
    u.name.text ≠ "." ∧
      ∃ d, t.leads folder = .ok d ∧ t.get? d = some .folder ∧ p = u.temporaryPlace d := by
  obtain ⟨-, hleads⟩ := Tree.locate_eq_ok_iff.mp h
  rw [temporary_eq] at hleads
  split at hleads
  · obtain ⟨d, hd, hlast⟩ := (Tree.leads_join_eq_ok_iff (by decide)).mp hleads
    obtain ⟨hfolder, -, hup⟩ := Tree.walk_cons_eq_ok_iff.mp hlast
    cases hup
    exact absurd (hrooted.folder_dropLast hfolder) hp
  · next hname =>
    obtain ⟨d, hd, hlast⟩ :=
      (Tree.leads_join_eq_ok_iff (slash_not_mem_temporaryName u.name)).mp hleads
    obtain ⟨hfolder, -, rfl⟩ :=
      (Tree.walk_singleton_eq_ok_iff (temporaryName_not_step u.name)).mp hlast
    exact ⟨hname, d, hd, hfolder, rfl⟩

/-! ## The steps -/

theorem grown_folderStep (fault : Option (FileError × Nat)) (folder : String) (t : Tree) :
    Grown t (folderStep fault folder t).2 (t.start folder) (Path.steps folder) := by
  cases fault with
  | none =>
    have hgrown := Tree.grown_makeFirstFolders t folder (Path.steps folder).length
    simp only [folderStep, Tree.makeFolders]
    split
    · next h => rwa [h] at hgrown
    · next h => rwa [h] at hgrown
  | some fault =>
    have hgrown := Tree.grown_makeFirstFolders t folder fault.2
    simp only [folderStep]
    split
    · next h => rwa [h] at hgrown
    · next h => rwa [h] at hgrown

theorem attempt_cases {ε : Type} (fault : Option FileError) (wrap : FileError → ε)
    (step : Tree → Except FileError Tree) (t : Tree) :
    (∃ e, attempt fault wrap step t = (.error e, t)) ∨
      ∃ t', step t = .ok t' ∧ attempt fault wrap step t = (.ok (), t') := by
  cases fault with
  | some e => exact Or.inl ⟨wrap e, rfl⟩
  | none =>
    cases hstep : step t with
    | error e => exact Or.inl ⟨wrap e, by simp [attempt, hstep]⟩
    | ok t' => exact Or.inr ⟨t', rfl, by simp [attempt, hstep]⟩

/-- Once the temporary file is there, it is filled, or some bytes are in it. -/
theorem fillStep_cases (fault : Option (FileError × Nat)) {before : List UInt8}
    (hp : t₁.get? p ≠ some .folder) (hlocate : t₁.locate (u.temporary folder) = .ok p) :
    u.fillStep fault folder (t₁.put p (.file before)) = (.ok (), t₁.put p (.file u.content)) ∨
      ∃ e content, u.fillStep fault folder (t₁.put p (.file before)) =
        (.error e, t₁.put p (.file content)) := by
  have hwrite : ∀ content, (t₁.put p (.file before)).writeFile (u.temporary folder) content =
      .ok (t₁.put p (.file content)) := by
    intro content
    have hfolders : SameFolders t₁ (t₁.put p (.file before)) := Tree.sameFolders_put_file hp
    exact Tree.writeFile_eq_ok_iff.mpr ⟨p, hfolders.locate_iff.mpr hlocate,
      mt (hfolders.folder_iff p).mp hp, Tree.put_put⟩
  cases fault with
  | none =>
    refine Or.inl ?_
    simp only [fillStep, attempt, hwrite]
  | some fault =>
    refine Or.inr ⟨.fill fault.1, u.content.take fault.2, ?_⟩
    simp only [fillStep, hwrite]

/-- What is left of a writing once the folders are made. -/
inductive Left (u : UnitSpec) (folder : String) (t : Tree) :
    Except UnitError String → Tree → Prop
  | untouched (e : UnitError) : Left u folder t (.error e) t
  | begun (e : UnitError) {d : Place} (content : List UInt8) (modes : List (Place × Nat))
    (hleads : t.leads folder = .ok d) (hfolder : t.get? d = some .folder)
    (hfree : t.get? (u.temporaryPlace d) ≠ some .folder) :
    Left u folder t (.error e) { t.put (u.temporaryPlace d) (.file content) with modes }
  | moved {d : Place} (modes : List (Place × Nat)) (hname : u.name.text ≠ ".")
    (hleads : t.leads folder = .ok d) (hfolder : t.get? d = some .folder)
    (htemporary : t.locate (u.temporary folder) = .ok (u.temporaryPlace d))
    (hfree : t.get? (u.temporaryPlace d) ≠ some .folder)
    (hpath : t.locate (u.path folder) = .ok (u.place d))
    (hunit : t.get? (u.place d) ≠ some .folder)
    (hmode : { t with modes }.mode? (u.place d) = some mode) :
    Left u folder t (.ok (u.path folder))
      { ((t.put (u.temporaryPlace d) (.file u.content)).erase (u.temporaryPlace d)).put (u.place d)
        (.file u.content) with modes }

/-- The full temporary file takes the place of the unit's, with the permissions it has. -/
theorem left_of_moveFile (hname : u.name.text ≠ ".") (hd : t.leads folder = .ok d)
    (hfolder : t.get? d = some .folder)
    (htemporary : t.locate (u.temporary folder) = .ok (u.temporaryPlace d))
    (hfree : t.get? (u.temporaryPlace d) ≠ some .folder)
    (h : ((t.put (u.temporaryPlace d) (.file u.content)).allow (u.temporaryPlace d)
      (some mode)).moveFile (u.temporary folder) (u.path folder) = .ok t') :
    Left u folder t (.ok (u.path folder)) t' := by
  obtain ⟨p, q, content, hsource, htarget, hcontent, hunit, rfl⟩ := Tree.exists_of_moveFile h
  have hfolders : SameFolders t ((t.put (u.temporaryPlace d) (.file u.content)).allow
      (u.temporaryPlace d) (some mode)) :=
    (Tree.sameFolders_put_file hfree).withModes _
  -- the two paths lead where they led before
  have hp : Except.ok p = Except.ok (u.temporaryPlace d) :=
    (hfolders.locate_iff.mp hsource).symm.trans htemporary
  cases hp
  rw [hfolders.locate_iff] at htarget
  obtain ⟨d', hd', rfl⟩ := exists_of_locate_path htarget
  rw [hd] at hd'
  cases hd'
  have hself : (t.put (u.temporaryPlace d) (.file u.content)).get? (u.temporaryPlace d) =
      some (.file u.content) := Tree.get?_put_self (Tree.ne_nil_of_not_folder hfree)
  have hsame : u.content = content := Item.file.inj (Option.some.inj (hself.symm.trans hcontent))
  subst hsame
  rw [Tree.mode?_allow_self]
  exact .moved _ hname hd hfolder htemporary hfree htarget (mt (hfolders.folder_iff _).mpr hunit)
    (Tree.mode?_allow_self _ _ _)

/-- The writing stops at the first step that fails. -/
theorem left_writeOn (hrooted : t.Rooted) (u : UnitSpec) (faults : StorageFaults)
    (folder : String) :
    ∃ t₁, Grown t t₁ (t.start folder) (Path.steps folder) ∧
      Left u folder t₁ (u.writeOn faults folder t).1 (u.writeOn faults folder t).2 := by
  rcases hstep : folderStep faults.makeFolder folder t with ⟨r, t₁⟩
  have hgrown : Grown t t₁ (t.start folder) (Path.steps folder) := by
    have h := grown_folderStep faults.makeFolder folder t
    rwa [hstep] at h
  refine ⟨t₁, hgrown, ?_⟩
  rw [UnitSpec.writeOn]
  rcases r with e | ⟨⟩
  · rw [bind_of_error hstep]
    exact .untouched e
  rw [bind_of_ok hstep]
  -- the temporary file is created, and that tells where the folder is
  rcases attempt_cases faults.create (UnitError.create (u.temporary folder))
    (·.writeFile (u.temporary folder) []) t₁ with ⟨e, hcreate⟩ | ⟨t₂, hwrite, hcreate⟩
  · rw [bind_of_error hcreate]
    exact .untouched e
  rw [bind_of_ok hcreate]
  obtain ⟨p, hlocate, hfree, rfl⟩ := Tree.writeFile_eq_ok_iff.mp hwrite
  obtain ⟨hname, d, hd, hfolder, rfl⟩ :=
    exists_of_locate_temporary (hgrown.rooted hrooted) hlocate hfree
  have hbegun := fun e content modes => Left.begun (u := u) e content modes hd hfolder hfree
  rcases fillStep_cases faults.fill hfree hlocate with hfill | ⟨e, content, hfill⟩
  case inr =>
    rw [bind_of_error hfill]
    exact hbegun e content t₁.modes
  rw [bind_of_ok hfill]
  generalize ht₃ : t₁.put (u.temporaryPlace d) (.file u.content) = t₃
  have hleft : ∀ e modes, Left u folder t₁ (.error e) { t₃ with modes } :=
    fun e modes => ht₃ ▸ hbegun e u.content modes
  rcases attempt_cases faults.sync UnitError.sync .ok t₃ with ⟨e, hsync⟩ | ⟨t₃', hsame, hsync⟩
  · rw [bind_of_error hsync]
    exact hleft e t₃.modes
  cases hsame
  rw [bind_of_ok hsync]
  rcases attempt_cases faults.permit UnitError.permit (·.permit (u.temporary folder) mode) t₃ with
    ⟨e, hpermit⟩ | ⟨t₄, hpermitted, hpermit⟩
  · rw [bind_of_error hpermit]
    exact hleft e t₃.modes
  rw [bind_of_ok hpermit]
  -- the permissions are given to the file that was filled
  obtain ⟨p, hp, rfl⟩ := Tree.exists_of_permit hpermitted
  have hsame : SameFolders t₁ t₃ := ht₃ ▸ Tree.sameFolders_put_file hfree
  cases (hsame.locate_iff.mp hp).symm.trans hlocate
  generalize ht₄ : t₃.allow (u.temporaryPlace d) (some mode) = t₄
  rcases attempt_cases faults.move (UnitError.move (u.path folder))
    (·.moveFile (u.temporary folder) (u.path folder)) t₄ with ⟨e, hmove⟩ | ⟨t₅, hmoved, hmove⟩
  · rw [bind_of_error hmove, ← ht₄]
    exact hleft e _
  rw [bind_of_ok hmove]
  subst ht₃ ht₄
  exact left_of_moveFile hname hd hfolder hlocate hfree hmoved

/-- The unit's file is in its place in the folder, and the temporary one is gone. -/
structure Placed (u : UnitSpec) (folder : String) (t : Tree) (d : Place) : Prop where
  leads : t.leads folder = .ok d
  path : t.locate (u.path folder) = .ok (u.place d)
  temporary : t.locate (u.temporary folder) = .ok (u.temporaryPlace d)
  unit : t.get? (u.place d) = some (.file u.content)
  gone : t.get? (u.temporaryPlace d) = none
  mode : t.mode? (u.place d) = some UnitSpec.mode

namespace Left

variable {r : Except UnitError String}

theorem sameFolders (h : Left u folder t r t') : SameFolders t t' := by
  cases h with
  | untouched e => exact ⟨rfl, fun p => Iff.rfl⟩
  | begun e content modes hleads hfolder hfree =>
    exact (Tree.sameFolders_put_file hfree).withModes modes
  | @moved d modes hname hleads hfolder htemporary hfree hpath hunit =>
    have herased := Tree.sameFolders_erase_put hfree u.content
    have hfree' := mt (herased.folder_iff (u.place d)).mp hunit
    exact (herased.trans (Tree.sameFolders_put_file hfree')).withModes modes

theorem get?_eq (h : Left u folder t r t')
    (hp : ∀ d, t.leads folder = .ok d →
      p ≠ u.temporaryPlace d ∧ (p = u.place d → ∃ e, r = .error e)) :
    t'.get? p = t.get? p := by
  cases h with
  | untouched e => rfl
  | begun e content modes hleads hfolder hfree => exact Tree.get?_put_of_ne (hp _ hleads).1
  | @moved d modes hname hleads hfolder htemporary hfree hpath hunit =>
    obtain ⟨hother, herror⟩ := hp d hleads
    have hplace : p ≠ u.place d := fun hplace => by
      obtain ⟨e, he⟩ := herror hplace
      cases he
    refine (Tree.get?_put_of_ne hplace).trans ?_
    rw [Tree.get?_erase_of_ne hother, Tree.get?_put_of_ne hother]

theorem rooted (h : Left u folder t r t') (hrooted : t.Rooted) : t'.Rooted := by
  cases h with
  | untouched e => exact hrooted
  | begun e content modes hleads hfolder hfree =>
    exact (hrooted.put_concat hfolder hfree).withModes modes
  | @moved d modes hname hleads hfolder htemporary hfree hpath hunit =>
    have hwritten : SameFolders t (t.put (u.temporaryPlace d) (.file u.content)) :=
      Tree.sameFolders_put_file hfree
    have herased := Tree.sameFolders_erase_put hfree u.content
    have hrooted' : ((t.put (u.temporaryPlace d) (.file u.content)).erase
        (u.temporaryPlace d)).Rooted :=
      (hrooted.put_concat hfolder hfree).erase (mt (hwritten.folder_iff _).mp hfree)
    exact (hrooted'.put_concat ((herased.folder_iff d).mpr hfolder)
      (mt (herased.folder_iff _).mp hunit)).withModes modes

theorem error_of_dot (h : Left u folder t r t') (hname : u.name.text = ".") :
    ∃ e, r = .error e := by
  cases h with
  | untouched e => exact ⟨e, rfl⟩
  | begun e content modes hleads hfolder hfree => exact ⟨e, rfl⟩
  | moved modes hname' => exact absurd hname hname'

/-- A writing that succeeds tells where the unit's file is. -/
theorem exists_placed {path : String} (h : Left u folder t (.ok path) t') :
    path = u.path folder ∧ ∃ d, Placed u folder t' d := by
  have hfolders := h.sameFolders
  cases h with
  | @moved d modes hname hleads hfolder htemporary hfree hpath hunit hmode =>
    have hne := place_ne_temporaryPlace u u d d
    refine ⟨rfl, d, ?_⟩
    exact {
      leads := hfolders.leads_iff.mpr hleads
      path := hfolders.locate_iff.mpr hpath
      temporary := hfolders.locate_iff.mpr htemporary
      unit := Tree.get?_put_self (Tree.ne_nil_of_not_folder hunit)
      gone := (Tree.get?_put_of_ne hne.symm).trans
        (Tree.get?_erase_self (Tree.ne_nil_of_not_folder hfree))
      mode := hmode }

theorem ok (h : Left u folder t r t') {path : String} (hr : r = .ok path) :
    path = u.path folder ∧ t'.at? path = some (.file u.content) ∧ t'.modeAt? path = some mode ∧
      t'.at? (u.temporary folder) = none := by
  subst hr
  obtain ⟨rfl, d, hplaced⟩ := h.exists_placed
  refine ⟨rfl, ?_, ?_, ?_⟩
  · rw [Tree.at?, hplaced.path]
    exact hplaced.unit
  · rw [Tree.modeAt?, hplaced.path]
    exact hplaced.mode
  · rw [Tree.at?, hplaced.temporary]
    exact hplaced.gone

end Left

/-! ## The writing -/

/-- What becomes of a tree when a unit is written into a folder. -/
structure Atomic (u : UnitSpec) (folder : String) (t : Tree) (r : Except UnitError String)
    (t' : Tree) : Prop where
  /-- Nothing changes but the temporary file and, if the writing succeeds, the unit's; what
  else may be new are folders on the way to this one. -/
  kept : ∀ p, (∀ d, t'.leads folder = .ok d →
      p ≠ u.temporaryPlace d ∧ (p = u.place d → ∃ e, r = .error e)) →
    Kept t t' (t.start folder) (Path.steps folder) p
  /-- These are not in the folder itself, unless it had to be made and its path steps up: -/
  elsewhere : t.Direct folder → ∀ d, t'.leads folder = .ok d → ∀ p, d <+: p → p ≠ d →
    p ≠ u.temporaryPlace d → p ≠ u.place d → t'.get? p = t.get? p
  /-- a writing that fails leaves what is at the unit's path as it was, -/
  failed : ∀ e, r = .error e → t.Direct folder →
    t'.at? (u.path folder) = t.at? (u.path folder)
  /-- one that succeeds leaves the whole text there, for all to read, and no temporary file, -/
  done : ∀ path, r = .ok path → path = u.path folder ∧
    t'.at? path = some (.file (Text.Utf8.encode u.text)) ∧ t'.modeAt? path = some 0o644 ∧
    t'.at? (u.temporary folder) = none
  /-- and no other unit is touched, -/
  others : ∀ v : UnitSpec, v.name ≠ u.name → t.Direct folder →
    t'.at? (v.path folder) = t.at? (v.path folder)
  /-- for no temporary file is ever a unit's. -/
  apart : ∀ (v : UnitSpec) (folder' : String),
    u.temporary folder ≠ v.path folder' ∧ v.temporary folder' ≠ u.path folder
  /-- It is named after the unit's file; a single dot gives no name, and no unit is written. -/
  named : u.temporary folder = Path.join folder (temporaryName u.name) ∨
    u.name.text = "." ∧ ∃ e, r = .error e
  rooted : t'.Rooted

/-- Writing a unit is all or nothing, whichever of its steps storage refuses. -/
theorem atomic_writeOn (hrooted : t.Rooted) (u : UnitSpec) (faults : StorageFaults)
    (folder : String) :
    Atomic u folder t (u.writeOn faults folder t).1 (u.writeOn faults folder t).2 := by
  obtain ⟨t₁, hgrown, hleft⟩ := left_writeOn hrooted u faults folder
  generalize (u.writeOn faults folder t).1 = r at hleft
  generalize (u.writeOn faults folder t).2 = t' at hleft
  have hsame := hleft.sameFolders
  have hhere : t'.here = t.here := hsame.here_eq.trans hgrown.here_eq
  have hfolders : ∀ p, t.get? p = some .folder → t'.get? p = some .folder :=
    fun p hp => (hsame.folder_iff p).mpr (hgrown.folder hp)
  have hkept : ∀ p, (∀ d, t'.leads folder = .ok d →
      p ≠ u.temporaryPlace d ∧ (p = u.place d → ∃ e, r = .error e)) →
      Kept t t' (t.start folder) (Path.steps folder) p := by
    intro p hp
    exact (hgrown.kept p).trans_same hsame (hleft.get?_eq fun d hd => hp d (hsame.leads_iff.mpr hd))
  have hunit : ∀ v : UnitSpec, t.Direct folder → (v.name = u.name → ∃ e, r = .error e) →
      t'.at? (v.path folder) = t.at? (v.path folder) := by
    intro v hdirect hv
    refine Tree.at?_join_eq hrooted hhere hfolders hdirect (slash_not_mem_unitName v.name)
      (unitName_not_step v.name) fun d hd => hkept (v.place d) fun d' hd' => ?_
    refine ⟨place_ne_temporaryPlace v u d d', fun hplace => hv ?_⟩
    exact Classical.byContradiction fun hname => place_ne_place hname d d' hplace
  exact {
    kept := hkept
    elsewhere := by
      intro hdirect d hd p hp hne htemporary hplace
      have hother := hkept p fun d' hd' => by
        rw [hd] at hd'
        cases hd'
        exact ⟨htemporary, fun h => absurd h hplace⟩
      exact hother.eq_of_within hhere hfolders hdirect hd hp hne
    failed := fun e he hdirect => hunit u hdirect fun _ => ⟨e, he⟩
    done := fun path hpath => hleft.ok hpath
    others := fun v hv hdirect => hunit v hdirect fun h => absurd h hv
    apart := fun v folder' =>
      ⟨temporary_ne_path u v folder folder', temporary_ne_path v u folder' folder⟩
    named := by
      by_cases hname : u.name.text = "."
      · exact Or.inr ⟨hname, hleft.error_of_dot hname⟩
      · exact Or.inl (by rw [temporary_eq, if_neg hname])
    rooted := hleft.rooted (hgrown.rooted hrooted) }

/-- A unit that was written is read back as its text. -/
theorem Atomic.readText {r : Except UnitError String} {path : String}
    (h : Atomic u folder t r t') (hr : r = .ok path) : t'.readText path = .ok u.text := by
  have hread := Tree.readFile_eq_ok_iff.mpr (h.done path hr).2.1
  rw [Tree.readText, hread]
  simp only [bind, Except.bind, Text.Utf8.decode?_encode]

/-- A unit whose name has an ending of its own. -/
def dottedUnit : UnitSpec := ⟨⟨"a.b", by decide, by decide⟩, "/bin/keep", none, .user, false⟩

/-- A home with an older unit, and what was left of a writing of it. -/
def usedHome : Tree :=
  ⟨[(["home"], .folder), (["home", "units"], .folder),
    (["home", "units", "a.b.service"], .file [0x5B]),
    (["home", "units", "a.b.service.tmp"], .file [0x5B, 0x55])], ["home"], []⟩

/-- What is said when somebody may not do something. -/
def denied : FileError := .other "Permission denied (os error 13)"

/-- The unit takes the place of the older one, unless storage refuses to move it there. -/
theorem atomic_usedHome :
    let refusing : StorageFaults := ⟨none, none, none, none, none, some denied⟩
    let refused := dottedUnit.writeOn refusing "units" usedHome
    let written := dottedUnit.writeOn .none "units" usedHome
    usedHome.Rooted ∧ Atomic dottedUnit "units" usedHome refused.1 refused.2 ∧
      refused.1 = .error (.move "units/a.b.service" denied) ∧
      refused.2.at? "units/a.b.service" = some (.file [0x5B]) ∧
      Atomic dottedUnit "units" usedHome written.1 written.2 ∧
      written.1 = .ok "units/a.b.service" ∧
      written.2.at? "units/a.b.service" = some (.file (Text.Utf8.encode dottedUnit.text)) := by
  intro refusing refused written
  have hrooted : usedHome.Rooted := Tree.rooted_of_items (by decide)
  have hrefused := atomic_writeOn hrooted dottedUnit refusing "units"
  have hwritten := atomic_writeOn hrooted dottedUnit .none "units"
  have hdone : written.1 = .ok "units/a.b.service" := by decide +kernel
  exact ⟨hrooted, hrefused, by decide +kernel, by decide +kernel, hwritten, hdone,
    (hwritten.done _ hdone).2.1⟩

end ServiceSupervisor.Systemd
