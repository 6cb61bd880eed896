import ServiceSupervisor.Files.Path
import ServiceSupervisor.Proofs.Text.Split

/-!
  Proofs/Files/Path.lean --- paths that are put together from a folder's and a name.
-/

set_option autoImplicit false

namespace ServiceSupervisor.Path

/-- All segments of a path, those that lead nowhere among them. -/
def segments (path : String) : List String := (Text.split '/' path.toList).map String.ofList

/-- What stands before a name when it is joined to `base`. -/
def lead (base : String) : String :=
  if base.isEmpty then "" else if base.toList.getLast? == some '/' then base else base ++ "/"

/-! ## Joining -/

variable {base next stem : String}

theorem isAbsolute_of_not_mem (h : '/' ∉ next.toList) : isAbsolute next = false := by
  rw [isAbsolute, beq_eq_false_iff_ne]
  exact fun hhead => h (List.mem_of_mem_head? hhead)

theorem join_of_not_mem (base : String) (h : '/' ∉ next.toList) :
    join base next = lead base ++ next := by
  rw [join, isAbsolute_of_not_mem h, Bool.false_or, lead]
  split
  · exact (String.empty_append).symm
  · split <;> rfl

/-- A name is joined behind nothing, or behind a slash. -/
theorem lead_cases (base : String) :
    (base.toList = [] ∧ (lead base).toList = []) ∨
      ∃ front, (lead base).toList = front ++ ['/'] ∧
        (base.toList = front ∧ front ≠ [] ∨ base.toList = front ++ ['/']) := by
  rw [lead]
  split
  · next h => exact Or.inl ⟨by simpa using h, rfl⟩
  · next h =>
    refine Or.inr ?_
    split
    · next hlast =>
      obtain ⟨front, hfront⟩ := List.getLast?_eq_some_iff.mp (beq_iff_eq.mp hlast)
      exact ⟨front, hfront, Or.inr hfront⟩
    · exact ⟨base.toList, by simp, Or.inl ⟨rfl, by simpa using h⟩⟩

/-- A joined path starts where the folder's does. -/
theorem isAbsolute_join (base : String) (h : '/' ∉ next.toList) :
    isAbsolute (join base next) = isAbsolute base := by
  rcases lead_cases base with ⟨hempty, hlead⟩ | ⟨front, hlead, hbase⟩
  · have hjoin : (join base next).toList = next.toList := by
      rw [join_of_not_mem base h, String.toList_append, hlead, List.nil_append]
    have hnext := isAbsolute_of_not_mem h
    rw [isAbsolute] at hnext
    rw [isAbsolute, isAbsolute, hjoin, hnext, hempty]
    rfl
  · have hhead : (join base next).toList.head? = base.toList.head? := by
      rw [join_of_not_mem base h, String.toList_append, hlead]
      rcases hbase with ⟨hbase, hfront⟩ | hbase
      · obtain ⟨c, cs, rfl⟩ := List.exists_cons_of_ne_nil hfront
        simp [hbase]
      · simp [hbase]
    rw [isAbsolute, isAbsolute, hhead]

/-- The segments of a joined path are those of the folder's, less an empty last one, and the
name. -/
theorem segments_join (base : String) (h : '/' ∉ next.toList) :
    ∃ front, segments (join base next) = front ++ [next] ∧
      (segments base = front ∨ segments base = front ++ [""]) := by
  have hnext : Text.split '/' next.toList = [next.toList] := Text.split_of_not_mem h
  rcases lead_cases base with ⟨hempty, hlead⟩ | ⟨front, hlead, hbase⟩
  · refine ⟨[], ?_, Or.inr ?_⟩
    · simp [segments, join_of_not_mem base h, hlead, hnext]
    · simp [segments, hempty, Text.split]
  · refine ⟨(Text.split '/' front).map String.ofList, ?_, ?_⟩
    · simp [segments, join_of_not_mem base h, hlead, Text.split_append_sep, hnext]
    · rcases hbase with ⟨hbase, -⟩ | hbase
      · exact Or.inl (by rw [segments, hbase])
      · exact Or.inr (by simp [segments, hbase, Text.split_append_sep, Text.split])

/-- A name with an ending of three characters and more leads down from a folder. -/
theorem append_not_step {ending : String} (h : 2 < ending.length) (s : String) :
    s ++ ending ∉ ["", ".", ".."] := by
  intro hmem
  have hshort : (s ++ ending).length ≤ 2 := by
    simp only [List.mem_cons, List.not_mem_nil, or_false] at hmem
    rcases hmem with h | h | h <;> rw [h] <;> decide
  rw [String.length_append] at hshort
  omega

/-! ## Extensions -/

section Lists

variable {pre name : List Char}

theorem splitLast_append (hpre : pre = [] ∨ ∃ front, pre = front ++ ['/']) (hname : '/' ∉ name) :
    splitLast (pre ++ name) = (pre, name) := by
  have hall : ∀ c ∈ name.reverse, decide (c ≠ '/') = true := by
    intro c hc
    exact decide_eq_true fun h => hname (h ▸ List.mem_reverse.mp hc)
  have hstops : pre.reverse.takeWhile (· ≠ '/') = [] ∧
      pre.reverse.dropWhile (· ≠ '/') = pre.reverse := by
    rcases hpre with rfl | ⟨front, rfl⟩ <;> simp
  rw [splitLast, List.reverse_append, List.takeWhile_append_of_pos hall,
    List.dropWhile_append_of_pos hall, hstops.1, hstops.2]
  simp

theorem splitExtension_append {stem ext : List Char} (hstem : stem ≠ []) (hext : '.' ∉ ext) :
    splitExtension '.' (stem ++ '.' :: ext) = (stem, some ext) := by
  have hall : ∀ c ∈ ext.reverse, decide (c ≠ '.') = true := by
    intro c hc
    exact decide_eq_true fun h => hext (h ▸ List.mem_reverse.mp hc)
  have hreverse : (stem ++ '.' :: ext).reverse = ext.reverse ++ '.' :: stem.reverse := by simp
  obtain ⟨c, before, hbefore⟩ := List.exists_cons_of_ne_nil (List.reverse_ne_nil_iff.mpr hstem)
  rw [splitExtension, hreverse, List.dropWhile_append_of_pos hall,
    List.takeWhile_append_of_pos hall]
  have hstem' : stem = (c :: before).reverse := by rw [← hbefore, List.reverse_reverse]
  simp [hstem']

end Lists

/-- The extension of a joined name is changed in the name, unless only two dots are left of
it, which are no name. -/
theorem withExtension_join (base : String) (hstem : stem ≠ "") (hslash : '/' ∉ stem.toList)
    (old ext : String) (hold : '/' ∉ old.toList ∧ '.' ∉ old.toList) (hext : '/' ∉ ext.toList) :
    withExtension ext (join base (stem ++ "." ++ old)) =
      join base (if stem = "." then ".." else stem ++ "." ++ ext) := by
  have hpre : (lead base).toList = [] ∨ ∃ front, (lead base).toList = front ++ ['/'] := by
    rcases lead_cases base with ⟨-, h⟩ | ⟨front, h, -⟩
    · exact Or.inl h
    · exact Or.inr ⟨front, h⟩
  have hname : '/' ∉ (stem ++ "." ++ old).toList := by simp [hslash, hold.1]
  have hcut : '/' ∉ stem.toList ++ ['.'] := by simp [hslash]
  have hstem' : stem.toList ≠ [] := by simpa using hstem
  have hchars : (join base (stem ++ "." ++ old)).toList =
      (lead base).toList ++ (stem.toList ++ '.' :: old.toList) := by
    simp [join_of_not_mem base hname]
  have hfull : '/' ∉ stem.toList ++ '.' :: old.toList := by simp [hslash, hold.1]
  -- the old extension goes first, but not the dot in front of it
  have htake : (lead base).toList ++ (stem.toList ++ '.' :: old.toList) =
      (lead base).toList ++ (stem.toList ++ ['.']) ++ old.toList := by simp
  have hlength : ((lead base).toList ++ (stem.toList ++ '.' :: old.toList)).length -
      old.toList.length = ((lead base).toList ++ (stem.toList ++ ['.'])).length := by
    simp only [List.length_append, List.length_cons, List.length_nil]
    omega
  rw [withExtension, hchars, splitLast_append hpre hfull,
    splitExtension_append hstem' hold.2]
  dsimp only
  rw [hlength, htake, List.take_left, setExtension, splitLast_append hpre hcut]
  dsimp only
  have hnone : (stem.toList ++ ['.'] = [] ∨ stem.toList ++ ['.'] = ['.'] ∨
      stem.toList ++ ['.'] = ['.', '.']) ↔ stem = "." := by
    have hdots : ['.', '.'] = ".".toList ++ ['.'] := rfl
    rw [hdots, List.append_left_inj, String.toList_inj]
    simp [hstem']
  by_cases hdot : stem = "."
  · rw [if_pos (hnone.mpr hdot), if_pos hdot, join_of_not_mem base (by decide), hdot]
    exact String.toList_inj.mp (by simp)
  · have hresult : '/' ∉ (stem ++ "." ++ ext).toList := by simp [hslash, hext]
    rw [if_neg (mt hnone.mp hdot), if_neg hdot, join_of_not_mem base hresult,
      splitExtension_append hstem' List.not_mem_nil]
    exact String.toList_inj.mp (by simp)

end ServiceSupervisor.Path
