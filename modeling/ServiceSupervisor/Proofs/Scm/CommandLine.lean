import ServiceSupervisor.Proofs.Scm.Names
import ServiceSupervisor.Proofs.Text.Words

/-!
  Proofs/Scm/CommandLine.lean --- the command that an installed service is run with.

  The program and the settings file are quoted in it, the name beside them is not.  So the
  command launches what was installed just if there are no blanks in the name, and no quotes
  anywhere.
-/

set_option autoImplicit false

namespace ServiceSupervisor.Scm

open Session

/-! ## Arguments -/

/-- What separates arguments. -/
def isBlank (c : Char) : Bool := c = ' ' || c = '\t'

/-- The arguments that a command is cut into.  A quote that is left open is closed behind
the last of them. -/
def arguments (command : String) : List String :=
  match Text.words? isBlank command with
  | some found => found
  | none => (Text.words? isBlank (command ++ "\"")).getD []

variable {program s : String} {name : OwnName} {config : Option String}

theorem arguments_of_words? {found : List String} (h : Text.words? isBlank s = some found) :
    arguments s = found := by
  rw [arguments, h]

/-- Arguments are made of what the command is made of, but for the quotes. -/
theorem of_mem_arguments {command : String} (hs : s ∈ arguments command) :
    '"' ∉ s.toList ∧ ∀ c ∈ s.toList, c ∈ command.toList := by
  cases hfound : Text.words? isBlank command with
  | some found =>
    rw [arguments_of_words? hfound] at hs
    exact Text.not_mem_of_words? hfound s hs
  | none =>
    rw [arguments, hfound] at hs
    cases hclosed : Text.words? isBlank (command ++ "\"") with
    | none =>
      rw [hclosed] at hs
      cases hs
    | some found =>
      rw [hclosed] at hs
      obtain ⟨hquote, hchars⟩ := Text.not_mem_of_words? hclosed s hs
      refine ⟨hquote, fun c hc => ?_⟩
      have hc' := hchars c hc
      rw [String.toList_append, List.mem_append] at hc'
      rcases hc' with hc' | hc'
      · exact hc'
      · have heq : c = '"' := by simpa using hc'
        exact absurd (heq ▸ hc) hquote

/-! ## The command of an installed service -/

/-- The name and the command that a call registers, as the function reads them. -/
def ApiCall.created? : ApiCall → Option (String × String)
  | createService _ name _ command => some (name, command)
  | _ => none

/-- What a command needs no more quotes for than it has, and no escapes. -/
structure Unescaped (program : String) (name : OwnName) (config : Option String) : Prop where
  name : ∀ c ∈ name.text.toList, c ≠ '"' ∧ isBlank c = false
  program : '"' ∉ program.toList ∧ '\x00' ∉ program.toList
  config : ∀ c ∈ config, '"' ∉ c.toList ∧ '\x00' ∉ c.toList

theorem nul_not_mem_command (hprogram : '\x00' ∉ program.toList)
    (hconfig : ∀ c ∈ config, '\x00' ∉ c.toList) :
    '\x00' ∉ (command program name config).toList := by
  have hname := name.nul_not_mem_text
  rw [command, Text.toList_launch]
  cases config with
  | none => simp [Text.configChars, hprogram, hname]
  | some c => simp [Text.configChars, hprogram, hname, hconfig c rfl]

theorem arguments_command_iff :
    arguments (Registry.untilNul (command program name config)) =
      Text.launchWords program name.text config ↔ Unescaped program name config := by
  constructor
  · intro h
    have hplain : ∀ s ∈ Text.launchWords program name.text config,
        '"' ∉ s.toList ∧ '\x00' ∉ s.toList := by
      intro s hs
      rw [← h] at hs
      obtain ⟨hquote, hchars⟩ := of_mem_arguments hs
      refine ⟨hquote, fun hnul => ?_⟩
      have hread := hchars _ hnul
      rw [Registry.untilNul, String.toList_ofList] at hread
      exact absurd (List.mem_takeWhile_imp hread) (by decide)
    have hprogram := hplain program (by simp [Text.launchWords])
    have hname := hplain name.text (by simp [Text.launchWords])
    have hconfig : ∀ c ∈ config, '"' ∉ c.toList ∧ '\x00' ∉ c.toList := by
      rintro c rfl
      exact hplain c (by simp [Text.launchWords])
    -- nothing is cut off, and no quote is left open
    rw [Registry.untilNul_of_not_mem
      (nul_not_mem_command hprogram.2 fun c hc => (hconfig c hc).2), command] at h
    have hblank : isBlank ' ' = true := rfl
    obtain ⟨found, hfound⟩ := Text.exists_words?_launch hblank (by decide) hprogram.1 hname.1
      fun c hc => (hconfig c hc).1
    rw [arguments_of_words? hfound] at h
    rw [h] at hfound
    have hcut := (Text.words?_launch_iff hblank (by decide) name.text_ne_empty).mp hfound
    exact ⟨hcut.2.1, hprogram, hconfig⟩
  · intro h
    rw [Registry.untilNul_of_not_mem
      (nul_not_mem_command h.program.2 fun c hc => (h.config c hc).2), command]
    refine arguments_of_words? ?_
    exact (Text.words?_launch_iff rfl (by decide) name.text_ne_empty).mpr
      ⟨h.program.1, h.name, fun c hc => (h.config c hc).1⟩

/-- What an installation registers, and what is launched when that is run. -/
structure Registers (program : String) (name : OwnName) : Prop where
  /-- under the name it registers the command, up to a NUL, -/
  created : ∀ tree config config' i, resolved tree config = .ok config' →
    Makes ApiCall.created? 0x3
      (name.text, Registry.untilNul (Scm.command program name config')) i
      (install tree program name config i).2
  /-- which launches the program for the name just if nothing in it needs quotes or escapes -/
  launches_iff : ∀ config, arguments (Registry.untilNul (Scm.command program name config)) =
    Text.launchWords program name.text config ↔ Unescaped program name config

/-- A service is registered under its name, and run under it if it has neither blanks nor
quotes. -/
theorem registers_install (program : String) (name : OwnName) : Registers program name where
  created tree config config' i h := by
    obtain ⟨_, hconducted, -⟩ := (goesBy_install tree program name h).conducted i
    have hmakes := makes_of_conducted (f := ApiCall.created?) hconducted
      (fun c hc => by cases c <;> first | rfl | cases hc) rfl (fun _ => rfl)
      fun h => filterMap_last h rfl
    rwa [seen_eq_untilNul, seen_eq_untilNul,
      Registry.untilNul_of_not_mem name.nul_not_mem_text] at hmakes
  launches_iff _ := arguments_command_iff

/-- A service whose name holds a blank is registered under it, and run for its first part. -/
theorem not_launches_registered_blank :
    let name : OwnName := ⟨"my web", by decide +kernel, by decide +kernel⟩
    let i := Interface.new fun _ _ => .succeeds 0
    let command := "\"C:\\svc.exe\" service my web"
    (install ⟨[], [], []⟩ "C:\\svc.exe" name none i).2.calls.filterMap ApiCall.created? =
        [("my web", command)] ∧
      arguments command = ["C:\\svc.exe", "service", "my", "web"] ∧
      arguments command ≠ Text.launchWords "C:\\svc.exe" name.text none :=
  ⟨by decide +kernel, by decide +kernel, by decide +kernel⟩

end ServiceSupervisor.Scm
