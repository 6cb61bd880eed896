import Mathlib.Data.Option.Basic

/-!
  Proofs/Text/Words.lean --- a command cut into words, and when it is cut as it was meant.

  Characters that separate do so outside of double quotes; quotes group and are
  removed.  So no word holds a quote, and one that was written without quotes holds no
  separator: whatever is put into a command as it is must hold neither.
-/

set_option autoImplicit false

namespace ServiceSupervisor.Text

/-- The words of a command from some point on, where a word may have been begun and a quote
may be open.  A quote that stays open leaves no words. -/
def wordsFrom (sep : Char → Bool) :
    Bool → Option (List Char) → List Char → Option (List (List Char))
  | true, _, [] => none
  | false, begun, [] => some begun.toList
  | true, begun, c :: cs =>
    if c = '"' then wordsFrom sep false begun cs
    else wordsFrom sep true (some (begun.getD [] ++ [c])) cs
  | false, begun, c :: cs =>
    if c = '"' then wordsFrom sep true (some (begun.getD [])) cs
    else if sep c then (wordsFrom sep false none cs).map (begun.toList ++ ·)
    else wordsFrom sep false (some (begun.getD [] ++ [c])) cs

/-- The words of a command. -/
def words? (sep : Char → Bool) (command : String) : Option (List String) :=
  (wordsFrom sep false none command.toList).map (·.map String.ofList)

variable {sep : Char → Bool} {begun : Option (List Char)} {word part cs rest : List Char}
  {found : List (List Char)} {c : Char} {quoted : Bool}

theorem words?_eq_some_iff {command : String} {xs : List String} :
    words? sep command = some xs ↔
      wordsFrom sep false none command.toList = some (xs.map String.toList) := by
  rw [words?, Option.map_eq_some_iff]
  constructor
  · rintro ⟨found, hfound, rfl⟩
    rw [hfound, List.map_map]
    simp [Function.comp_def]
  · intro h
    exact ⟨_, h, by simp [Function.comp_def]⟩

/-! ## What is written comes back -/

/-- Up to the next quote, what is quoted is added to the word. -/
theorem wordsFrom_quoted (hpart : '"' ∉ part) (rest : List Char) :
    wordsFrom sep true (some word) (part ++ '"' :: rest) =
      wordsFrom sep false (some (word ++ part)) rest := by
  induction part generalizing word with
  | nil => simp [wordsFrom]
  | cons c part ih =>
    rw [List.mem_cons, not_or] at hpart
    rw [List.cons_append, wordsFrom, if_neg (Ne.symm hpart.1), Option.getD_some, ih hpart.2,
      List.append_assoc, List.singleton_append]

/-- So is what needs no quotes. -/
theorem wordsFrom_plain (hpart : ∀ c ∈ part, c ≠ '"' ∧ sep c = false) (rest : List Char) :
    wordsFrom sep false (some word) (part ++ rest) =
      wordsFrom sep false (some (word ++ part)) rest := by
  induction part generalizing word with
  | nil => simp
  | cons c part ih =>
    obtain ⟨hquote, hsep⟩ := hpart c List.mem_cons_self
    rw [List.cons_append, wordsFrom, if_neg hquote, if_neg (by simp [hsep]), Option.getD_some,
      ih fun c hc => hpart c (List.mem_cons_of_mem _ hc), List.append_assoc,
      List.singleton_append]

/-- And it begins a word if it is something. -/
theorem wordsFrom_none_plain (hpart : ∀ c ∈ part, c ≠ '"' ∧ sep c = false) (hsome : part ≠ [])
    (rest : List Char) :
    wordsFrom sep false none (part ++ rest) = wordsFrom sep false (some part) rest := by
  cases part with
  | nil => exact absurd rfl hsome
  | cons c part =>
    obtain ⟨hquote, hsep⟩ := hpart c List.mem_cons_self
    rw [List.cons_append, wordsFrom, if_neg hquote, if_neg (by simp [hsep]),
      wordsFrom_plain fun c hc => hpart c (List.mem_cons_of_mem _ hc)]
    rfl

theorem wordsFrom_sep (hquote : c ≠ '"') (hsep : sep c = true) (rest : List Char) :
    wordsFrom sep false begun (c :: rest) =
      (wordsFrom sep false none rest).map (begun.toList ++ ·) := by
  rw [wordsFrom, if_neg hquote, if_pos hsep]

/-- A separator ends what was written without quotes. -/
theorem wordsFrom_append_sep (hpart : '"' ∉ part) (hquote : c ≠ '"') (hsep : sep c = true)
    (rest : List Char) :
    wordsFrom sep false begun (part ++ c :: rest) =
      (wordsFrom sep false begun part).bind fun found =>
        (wordsFrom sep false none rest).map (found ++ ·) := by
  induction part generalizing begun with
  | nil =>
    rw [List.nil_append, wordsFrom_sep hquote hsep, wordsFrom]
    rfl
  | cons d part ih =>
    rw [List.mem_cons, not_or] at hpart
    rw [List.cons_append, wordsFrom, if_neg (Ne.symm hpart.1), wordsFrom,
      if_neg (Ne.symm hpart.1), ih hpart.2, ih hpart.2]
    split
    · simp [Option.map_bind, Option.bind_map, Function.comp_def, List.append_assoc]
    · rfl

/-! ## What words are made of -/

/-- Characters of words are characters of the command, and no quotes. -/
theorem of_mem_wordsFrom {P : Char → Prop} (hcs : ∀ c ∈ cs, c ≠ '"' → P c)
    (hbegun : ∀ c ∈ begun.getD [], P c) (h : wordsFrom sep quoted begun cs = some found) :
    ∀ word ∈ found, ∀ c ∈ word, P c := by
  induction cs generalizing quoted begun found with
  | nil =>
    cases quoted with
    | true => cases h
    | false =>
      cases h
      cases begun with
      | none => simp
      | some word => simpa using hbegun
  | cons c cs ih =>
    have hrest : ∀ c ∈ cs, c ≠ '"' → P c := fun c hc => hcs c (List.mem_cons_of_mem _ hc)
    have hgrown : c ≠ '"' → ∀ c' ∈ begun.getD [] ++ [c], P c' := by
      intro hquote c' hc'
      rcases List.mem_append.mp hc' with hc' | hc'
      · exact hbegun c' hc'
      · rw [List.mem_singleton.mp hc']
        exact hcs c List.mem_cons_self hquote
    cases quoted with
    | true =>
      rw [wordsFrom] at h
      split at h
      · exact ih hrest hbegun h
      · next hquote =>
        refine ih hrest ?_ h
        exact hgrown hquote
    | false =>
      rw [wordsFrom] at h
      split at h
      · refine ih hrest ?_ h
        exact hbegun
      · next hquote =>
        split at h
        · obtain ⟨later, hlater, rfl⟩ := Option.map_eq_some_iff.mp h
          intro word hword
          rcases List.mem_append.mp hword with hword | hword
          · rw [Option.mem_toList] at hword
            rw [hword] at hbegun
            exact hbegun
          · exact ih hrest (by simp) hlater word hword
        · refine ih hrest ?_ h
          exact hgrown hquote

/-- What is written without quotes has words, and no separator is in them. -/
theorem exists_wordsFrom (hcs : '"' ∉ cs) (hbegun : ∀ c ∈ begun.getD [], sep c = false) :
    ∃ found, wordsFrom sep false begun cs = some found ∧
      ∀ word ∈ found, ∀ c ∈ word, sep c = false := by
  induction cs generalizing begun with
  | nil =>
    refine ⟨begun.toList, rfl, ?_⟩
    cases begun with
    | none => simp
    | some word => simpa using hbegun
  | cons c cs ih =>
    rw [List.mem_cons, not_or] at hcs
    rw [wordsFrom, if_neg (Ne.symm hcs.1)]
    split
    · have hnone : ∀ c ∈ (none : Option (List Char)).getD [], sep c = false := by simp
      obtain ⟨found, hfound, hplain⟩ := ih hcs.2 hnone
      refine ⟨begun.toList ++ found, by rw [hfound]; rfl, ?_⟩
      intro word hword
      rcases List.mem_append.mp hword with hword | hword
      · rw [Option.mem_toList] at hword
        rw [hword] at hbegun
        exact hbegun
      · exact hplain word hword
    · next hsep =>
      refine ih hcs.2 ?_
      intro c' hc'
      rcases List.mem_append.mp hc' with hc' | hc'
      · exact hbegun c' hc'
      · rw [List.mem_singleton.mp hc']
        simpa using hsep

/-- A text without quotes is one word, as it is, if nothing in it separates. -/
theorem wordsFrom_eq_singleton_iff (hcs : '"' ∉ cs) (hsome : cs ≠ []) :
    wordsFrom sep false none cs = some [cs] ↔ ∀ c ∈ cs, sep c = false := by
  constructor
  · intro h
    have hnone : ∀ c ∈ (none : Option (List Char)).getD [], sep c = false := by simp
    obtain ⟨found, hfound, hplain⟩ := exists_wordsFrom hcs hnone
    rw [h] at hfound
    injection hfound with hfound
    exact hplain cs (hfound ▸ List.mem_singleton_self cs)
  · intro h
    have hplain : ∀ c ∈ cs, c ≠ '"' ∧ sep c = false := by
      intro c hc
      exact ⟨fun heq => hcs (heq ▸ hc), h c hc⟩
    have hword := wordsFrom_none_plain hplain hsome []
    rwa [List.append_nil, wordsFrom] at hword

/-! ## A command that launches a program -/

section Launch

variable {program name : String} {config : Option String}

/-- The words that a program is launched with for a service. -/
def launchWords (program name : String) (config : Option String) : List String :=
  [program, "service", name] ++ config.elim [] fun c => ["--config", c]

/-- What a launching command ends with. -/
def configChars (config : Option String) : List Char :=
  config.elim [] fun c => ' ' :: ("--config".toList ++ ' ' :: '"' :: (c.toList ++ ['"']))

theorem toList_launch :
    ("\"" ++ program ++ "\" service " ++ name ++
      (config.elim "" fun c => " --config \"" ++ c ++ "\"")).toList =
      '"' :: (program.toList ++ '"' :: ' ' :: ("service".toList ++ ' ' ::
        (name.toList ++ configChars config))) := by
  cases config <;> simp [configChars]

theorem map_toList_launchWords :
    (launchWords program name config).map String.toList =
      [program.toList, "service".toList] ++
        ([name.toList] ++ config.elim [] fun c => ["--config".toList, c.toList]) := by
  cases config <;> rfl

/-- No word of a command holds a quote. -/
theorem not_mem_of_words? {command : String} {xs : List String} (h : words? sep command = some xs) :
    ∀ x ∈ xs, '"' ∉ x.toList ∧ ∀ c ∈ x.toList, c ∈ command.toList := by
  intro x hx
  have hmem : x.toList ∈ xs.map String.toList := List.mem_map_of_mem hx
  have hchars : ∀ c ∈ x.toList, c ≠ '"' ∧ c ∈ command.toList := by
    refine of_mem_wordsFrom (fun c hc hquote => ⟨hquote, hc⟩) ?_ (words?_eq_some_iff.mp h) _ hmem
    simp
  exact ⟨fun hquote => (hchars _ hquote).1 rfl, fun c hc => (hchars c hc).2⟩

variable (hblank : sep ' ' = true) (hfixed : "service--config".toList.any sep = false)

include hfixed in
theorem plain_of_subset (hpart : part ⊆ "service--config".toList) :
    ∀ c ∈ part, c ≠ '"' ∧ sep c = false := by
  intro c hc
  refine ⟨?_, by simpa using List.any_eq_false.mp hfixed c (hpart hc)⟩
  rintro rfl
  exact absurd (hpart hc) (by decide)

include hblank hfixed

/-- A quoted program is the first word, and the verb the second. -/
theorem wordsFrom_launch (hpart : '"' ∉ part) (rest : List Char) :
    wordsFrom sep false none ('"' :: (part ++ '"' :: ' ' :: ("service".toList ++ ' ' :: rest))) =
      (wordsFrom sep false none rest).map ([part, "service".toList] ++ ·) := by
  have hverb : ∀ c ∈ "service".toList, c ≠ '"' ∧ sep c = false :=
    plain_of_subset hfixed (by decide)
  rw [wordsFrom, if_pos rfl, Option.getD_none, wordsFrom_quoted hpart, List.nil_append,
    wordsFrom_sep (by decide) hblank, wordsFrom_none_plain hverb (by decide),
    wordsFrom_sep (by decide) hblank, Option.map_map]
  rfl

/-- A quoted settings file follows its option. -/
theorem wordsFrom_append_configChars (hpart : '"' ∉ part)
    (hconfig : ∀ c ∈ config, '"' ∉ c.toList) :
    wordsFrom sep false none (part ++ configChars config) =
      (wordsFrom sep false none part).map
        (· ++ config.elim [] fun c => ["--config".toList, c.toList]) := by
  cases config with
  | none => simp [configChars]
  | some c =>
    have hoption : ∀ c ∈ "--config".toList, c ≠ '"' ∧ sep c = false :=
      plain_of_subset hfixed (by decide)
    have hfile : wordsFrom sep false none ("--config".toList ++ ' ' :: '"' :: (c.toList ++ ['"'])) =
        some ["--config".toList, c.toList] := by
      rw [wordsFrom_none_plain hoption (by decide), wordsFrom_sep (by decide) hblank, wordsFrom,
        if_pos rfl, Option.getD_none, wordsFrom_quoted (hconfig c rfl)]
      rfl
    rw [configChars, Option.elim_some, wordsFrom_append_sep hpart (by decide) hblank, hfile]
    cases wordsFrom sep false none part <;> rfl

/-- Where no quote is in the way, a launching command has words. -/
theorem exists_words?_launch (hprogram : '"' ∉ program.toList) (hname : '"' ∉ name.toList)
    (hconfig : ∀ c ∈ config, '"' ∉ c.toList) :
    ∃ xs, words? sep ("\"" ++ program ++ "\" service " ++ name ++
      (config.elim "" fun c => " --config \"" ++ c ++ "\"")) = some xs := by
  have hnone : ∀ c ∈ (none : Option (List Char)).getD [], sep c = false := by simp
  obtain ⟨found, hfound, -⟩ := exists_wordsFrom hname hnone
  rw [words?, toList_launch, wordsFrom_launch hblank hfixed hprogram,
    wordsFrom_append_configChars hblank hfixed hname hconfig, hfound]
  exact ⟨_, rfl⟩

/-- What is quoted must be free of quotes, and what is not, of separators too: then, and only
then, a launching command is cut into the words it was put together from. -/
theorem words?_launch_iff (hname : name ≠ "") :
    words? sep ("\"" ++ program ++ "\" service " ++ name ++
        (config.elim "" fun c => " --config \"" ++ c ++ "\"")) =
        some (launchWords program name config) ↔
      '"' ∉ program.toList ∧ (∀ c ∈ name.toList, c ≠ '"' ∧ sep c = false) ∧
        ∀ c ∈ config, '"' ∉ c.toList := by
  -- once nothing holds a quote, the command is read piece by piece
  have hpieces : '"' ∉ program.toList → '"' ∉ name.toList → (∀ c ∈ config, '"' ∉ c.toList) →
      (words? sep ("\"" ++ program ++ "\" service " ++ name ++
          (config.elim "" fun c => " --config \"" ++ c ++ "\"")) =
          some (launchWords program name config) ↔ ∀ c ∈ name.toList, sep c = false) := by
    intro hprogram hname' hconfig
    rw [words?_eq_some_iff, toList_launch, wordsFrom_launch hblank hfixed hprogram,
      wordsFrom_append_configChars hblank hfixed hname' hconfig, map_toList_launchWords,
      Option.map_map, ← wordsFrom_eq_singleton_iff hname' (by simpa using hname)]
    have hinjective : Function.Injective fun found : List (List Char) =>
        [program.toList, "service".toList] ++
          (found ++ config.elim [] fun c => ["--config".toList, c.toList]) := by
      intro found found' heq
      exact List.append_cancel_right (List.append_cancel_left heq)
    exact (Option.map_injective hinjective).eq_iff (b := some [name.toList])
  constructor
  · intro h
    have hquotes := not_mem_of_words? h
    have hprogram : '"' ∉ program.toList := (hquotes program (by simp [launchWords])).1
    have hname' : '"' ∉ name.toList := (hquotes name (by simp [launchWords])).1
    have hconfig : ∀ c ∈ config, '"' ∉ c.toList := by
      rintro c rfl
      exact (hquotes c (by simp [launchWords])).1
    have hplain := (hpieces hprogram hname' hconfig).mp h
    exact ⟨hprogram, fun c hc => ⟨fun heq => hname' (heq ▸ hc), hplain c hc⟩, hconfig⟩
  · rintro ⟨hprogram, hplain, hconfig⟩
    have hname' : '"' ∉ name.toList := fun hmem => (hplain _ hmem).1 rfl
    exact (hpieces hprogram hname' hconfig).mpr fun c hc => (hplain c hc).2

end Launch

end ServiceSupervisor.Text
