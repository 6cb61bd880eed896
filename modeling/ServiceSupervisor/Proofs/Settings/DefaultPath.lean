import ServiceSupervisor.Proofs.Files.Tree
import ServiceSupervisor.Proofs.Settings.OwnName
import ServiceSupervisor.Registry.Reader
import ServiceSupervisor.Settings.ConfigFile

/-!
  Proofs/Settings/DefaultPath.lean --- where the settings of a supervisor are kept, by its name.

  A name holds no separator of paths, so it is one segment of the path.  That segment names
  a folder, unless it is one of the two that are steps on the way: a single dot leads
  nowhere, and two dots lead out of the folder that all settings are in.
-/

set_option autoImplicit false

namespace ServiceSupervisor.Settings.ConfigFile

open ServiceSupervisor.Tree (after after_of_plain resolved resolved_join)

variable {env : Environment} {name other : OwnName} {here : Place}

/-- Two steps are taken from there: one by the name, and one to the file. -/
theorem resolved_defaultPath (here : Place) (env : Environment) (name : OwnName) :
    resolved here (defaultPath env name) =
      after (resolved here (base env)) name.text ++ [name.text ++ ".toml"] := by
  have hfile : '/' ∉ (name.text ++ ".toml").toList := by simp [name.slash_not_mem_text]
  rw [defaultPath, resolved_join here _ hfile, resolved_join here _ (name.slash_not_mem_text),
    after_of_plain (Path.append_not_step (by decide) _)]

theorem not_step_iff (name : OwnName) :
    name.text ∉ ["", ".", ".."] ↔ name.text ≠ "." ∧ name.text ≠ ".." := by
  simp [name.text_ne_empty]

/-- A step by the name leads to a folder of that name just if the name is no step. -/
theorem after_eq_append_iff {p : Place} :
    after p name.text = p ++ [name.text] ↔ name.text ≠ "." ∧ name.text ≠ ".." := by
  rw [← not_step_iff]
  refine ⟨fun h hstep => ?_, after_of_plain⟩
  have hlength : (after p name.text).length ≤ p.length := by
    simp only [List.mem_cons, List.not_mem_nil, or_false, ← or_assoc] at hstep
    rcases hstep with hstep | hstep
    · rw [after, if_pos hstep]
    · rw [hstep]
      exact p.length_dropLast ▸ Nat.sub_le _ _
  rw [h, List.length_append] at hlength
  exact absurd hlength (by simp)

theorem eq_of_resolved_eq
    (h : resolved here (defaultPath env other) = resolved here (defaultPath env name)) :
    other = name := by
  rw [resolved_defaultPath, resolved_defaultPath] at h
  have hfile : other.text ++ ".toml" = name.text ++ ".toml" :=
    List.singleton_inj.mp (List.append_inj_right' h rfl)
  exact OwnName.eq_of_text_eq ((String.append_left_inj _).mp hfile)

theorem eq_of_parametersKey_eq (h : Registry.parametersKey other = Registry.parametersKey name) :
    other = name := by
  unfold Registry.parametersKey at h
  rw [String.append_left_inj, String.append_right_inj] at h
  exact OwnName.eq_of_text_eq h

/-- Where the settings of a supervisor are kept. -/
structure Located (env : Environment) (name : OwnName) : Prop where
  /-- They are in a folder of the supervisor's name in the one for all, just if that name is
  not a step. -/
  own_iff : ∀ here, resolved here (defaultPath env name) =
      resolved here (base env) ++ [name.text, name.text ++ ".toml"] ↔
    name.text ≠ "." ∧ name.text ≠ ".."
  /-- A single dot leaves them in the folder for all, -/
  dot : name.text = "." → ∀ here,
    resolved here (defaultPath env name) = resolved here (base env) ++ ["..toml"]
  /-- and two dots take them out of it. -/
  dots : name.text = ".." → ∀ here,
    resolved here (defaultPath env name) = (resolved here (base env)).dropLast ++ ["...toml"]
  /-- No tree has them elsewhere, -/
  leads : ∀ (t : Tree) p, t.leads (defaultPath env name) = .ok p →
    p = resolved t.here (defaultPath env name)
  /-- and no other supervisor has them there, -/
  alone : ∀ here other,
    resolved here (defaultPath env other) = resolved here (defaultPath env name) → other = name
  /-- nor under the same key of the registry. -/
  key : ∀ other, Registry.parametersKey other = Registry.parametersKey name → other = name

/-- Whoever runs the program, each name has a place of its own for its settings, and it is in a
folder of its own unless the name is a step. -/
theorem located_name (env : Environment) (name : OwnName) : Located env name where
  own_iff here := by
    rw [resolved_defaultPath, List.append_cons _ name.text, List.append_left_inj]
    exact after_eq_append_iff
  dot h here := by
    rw [resolved_defaultPath, h]
    rfl
  dots h here := by
    rw [resolved_defaultPath, h]
    rfl
  leads _ _ h := Tree.eq_resolved_of_leads h
  alone _ _ h := eq_of_resolved_eq h
  key _ h := eq_of_parametersKey_eq h

/-- Two dots are a name, given as such or taken from a program's, and the settings under it are
outside of the folder for all. -/
theorem not_within_base_dots :
    ∃ name : OwnName, OwnName.resolve (some "..") [] = .ok name ∧
      OwnName.resolve none (Text.Utf8.encode "/bin/...x") = .ok name ∧
      defaultPath ⟨0, [], none⟩ name = "/etc/../...toml" ∧
      resolved [] (defaultPath ⟨0, [], none⟩ name) = ["...toml"] ∧
      resolved [] (defaultPath ⟨0, [], none⟩ name) ≠
        resolved [] (base ⟨0, [], none⟩) ++ [name.text, name.text ++ ".toml"] :=
  ⟨⟨"..", by decide, by decide⟩, by decide +kernel, by decide +kernel, by decide +kernel,
    by decide +kernel, by decide +kernel⟩

end ServiceSupervisor.Settings.ConfigFile
