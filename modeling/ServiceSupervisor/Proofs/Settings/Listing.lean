import ServiceSupervisor.Proofs.Settings.WatchPlan

/-!
  Proofs/Settings/Listing.lean --- which lists of names and which times make a plan.

  The names of a plan are the first occurrences of the trimmed names, in their order, and
  each later occurrence is warned of once.  Where there is no plan, the list is to blame
  before the time between two passes is.
-/

set_option autoImplicit false

namespace ServiceSupervisor

/-! ## First and later occurrences -/

section Occurrences

variable {α : Type} [DecidableEq α]

/-- The entries whose value stands before them already. -/
def repeats (xs : List α) : List α := (xs.zipIdx.filter fun e => e.1 ∈ xs.take e.2).map (·.1)

theorem repeats_snoc (xs : List α) (x : α) :
    repeats (xs ++ [x]) = repeats xs ++ if x ∈ xs then [x] else [] := by
  have hbefore : xs.zipIdx.filter (fun e => e.1 ∈ (xs ++ [x]).take e.2) =
      xs.zipIdx.filter fun e => e.1 ∈ xs.take e.2 := by
    apply List.filter_congr
    intro e he
    have hlt : e.2 < xs.length := by simpa using List.snd_lt_of_mem_zipIdx he
    rw [List.take_append_of_le_length (Nat.le_of_lt hlt)]
  have hlast : [x].zipIdx xs.length = [(x, xs.length)] := rfl
  rw [repeats, repeats, List.zipIdx_append, List.filter_append, List.map_append, hbefore,
    Nat.zero_add, hlast]
  by_cases hx : x ∈ xs <;> simp [hx]

theorem eraseDups_snoc (xs : List α) (x : α) :
    (xs ++ [x]).eraseDups = xs.eraseDups ++ if x ∈ xs then [] else [x] := by
  rw [List.eraseDups_append]
  by_cases hx : x ∈ xs <;> simp [List.removeAll, hx, List.eraseDups_cons]

/-- Every entry is kept or is a repeat. -/
theorem length_repeats_add_length_eraseDups (xs : List α) :
    (repeats xs).length + xs.eraseDups.length = xs.length := by
  induction xs using List.reverseRecOn with
  | nil => rfl
  | append_singleton xs x ih =>
    rw [repeats_snoc, eraseDups_snoc]
    by_cases hx : x ∈ xs <;> simp [hx] <;> omega

end Occurrences

namespace WatchPlan

open Settings

variable {listed rest : List String} {given : String} {poll initial : Duration}

/-! ## Collecting -/

/-- The entry that warns of a repeat. -/
def repeatWarning (name : String) : Entry := ⟨.settings, .warn, repeatNotice name⟩

/-- A name that is not blank joins those that are done, and is warned of if it is one of
them. -/
theorem collect_cons {done : List String} (hblank : Text.trim given ≠ "") :
    (collect done.eraseDups (given :: rest)).value =
        (collect (done ++ [Text.trim given]).eraseDups rest).value ∧
      (repeats done).map repeatWarning ++ (collect done.eraseDups (given :: rest)).log =
        (repeats (done ++ [Text.trim given])).map repeatWarning ++
          (collect (done ++ [Text.trim given]).eraseDups rest).log := by
  have hempty : (Text.trim given).isEmpty = false := by simpa using hblank
  rw [eraseDups_snoc, repeats_snoc]
  by_cases hmem : Text.trim given ∈ done
  · simp [collect, hempty, hmem, List.mem_eraseDups, Logged.note, repeatWarning]
  · simp [collect, hempty, hmem, List.mem_eraseDups]

theorem collect_of_blank (done : List String) (hblank : Text.trim given = "") :
    collect done.eraseDups (given :: rest) =
      pure (.error (.malformed .services .blankService)) := by
  have hempty : (Text.trim given).isEmpty = true := by simp [hblank]
  simp [collect, hempty]

theorem value_collect_of_nonblank (done : List String)
    (h : ∀ given ∈ listed, Text.trim given ≠ "") :
    (collect done.eraseDups listed).value = .ok (done ++ listed.map Text.trim).eraseDups := by
  induction listed generalizing done with
  | nil => rw [collect, List.map_nil, List.append_nil, Logged.value_pure]
  | cons given rest ih =>
    rw [(collect_cons (h given List.mem_cons_self)).1,
      ih _ fun g hg => h g (List.mem_cons_of_mem given hg), List.map_cons, List.append_assoc,
      List.singleton_append]

theorem value_collect_of_blank (done : List String) (h : ∃ given ∈ listed, Text.trim given = "") :
    (collect done.eraseDups listed).value = .error (.malformed .services .blankService) := by
  induction listed generalizing done with
  | nil => simp at h
  | cons given rest ih =>
    by_cases hblank : Text.trim given = ""
    · rw [collect_of_blank done hblank, Logged.value_pure]
    · have hrest : ∃ given ∈ rest, Text.trim given = "" := by simpa [hblank] using h
      rw [(collect_cons hblank).1, ih _ hrest]

/-- What is warned of are the repeats before the first blank name. -/
theorem log_collect (done listed : List String) :
    (repeats done).map repeatWarning ++ (collect done.eraseDups listed).log =
      (repeats (done ++ (listed.map Text.trim).takeWhile (· ≠ ""))).map repeatWarning := by
  induction listed generalizing done with
  | nil => simp [collect]
  | cons given rest ih =>
    by_cases hblank : Text.trim given = ""
    · rw [collect_of_blank done hblank]
      simp [hblank]
    · rw [(collect_cons hblank).2, ih, List.map_cons, List.takeWhile_cons_of_pos (by simpa),
        List.append_assoc, List.singleton_append]

/-! ## Making a plan -/

/-- What a list of names and two times come to. -/
structure Makes (listed : List String) (poll initial : Duration)
    (outcome : Logged (Except Settings.Error WatchPlan)) : Prop where
  /-- there is a plan just if there are names, none of them blank, and a time to wait -/
  ok_iff : (∃ plan, outcome.value = .ok plan) ↔
    listed ≠ [] ∧ (∀ given ∈ listed, Text.trim given ≠ "") ∧ 0 < poll.nanos
  /-- it lists the trimmed names, each where it first occurs, -/
  plan_eq : ∀ plan, outcome.value = .ok plan →
    plan = ⟨(listed.map Text.trim).eraseDups, poll, initial⟩
  /-- at least one of them, none of them twice, -/
  listable : ∀ plan, outcome.value = .ok plan → plan.services ≠ [] ∧ Listable plan.services
  /-- and those that it leaves out are as many as the warnings -/
  length_log : ∀ plan, outcome.value = .ok plan →
    outcome.log.length + plan.services.length = listed.length
  /-- a blank name is the first thing that is found wrong, -/
  blank : (∃ given ∈ listed, Text.trim given = "") →
    outcome.value = .error (.malformed .services .blankService)
  /-- then that there are no names, -/
  empty : listed = [] → outcome.value = .error (.malformed .services .noServices)
  /-- and then that there is no time to wait -/
  zero : listed ≠ [] → (∀ given ∈ listed, Text.trim given ≠ "") → poll.nanos = 0 →
    outcome.value = .error (.malformed .pollInterval .zeroInterval)
  /-- whatever comes of it, the repeats before the first blank name are warned of, in
  order -/
  log_eq : outcome.log =
    (repeats ((listed.map Text.trim).takeWhile (· ≠ ""))).map repeatWarning
  /-- a plan is made again from what it holds, with no warning -/
  again : ∀ plan, outcome.value = .ok plan →
    make plan.services plan.pollInterval plan.initialDelay = pure (.ok plan)

theorem log_make (listed : List String) (poll initial : Duration) :
    (make listed poll initial).log = (collect [] listed).log := by
  simp only [make, Logged.log_bind]
  split
  · simp
  · simp
  · split <;> simp

theorem value_make_of_blank (h : ∃ given ∈ listed, Text.trim given = "") :
    (make listed poll initial).value = .error (.malformed .services .blankService) := by
  have hcollect := value_collect_of_blank [] h
  simp only [List.eraseDups_nil] at hcollect
  simp [make, hcollect]

/-- Names that are not blank make a plan if there are any and there is a time to wait. -/
theorem value_make_of_nonblank (hlisted : listed ≠ [])
    (h : ∀ given ∈ listed, Text.trim given ≠ "") :
    (make listed poll initial).value =
      if poll.nanos = 0 then .error (.malformed .pollInterval .zeroInterval)
      else .ok ⟨(listed.map Text.trim).eraseDups, poll, initial⟩ := by
  have hcollect := value_collect_of_nonblank [] h
  rw [List.eraseDups_nil, List.nil_append] at hcollect
  obtain ⟨given, rest, rfl⟩ := List.exists_cons_of_ne_nil hlisted
  rw [List.map_cons, List.eraseDups_cons] at hcollect ⊢
  simp only [make, Logged.value_bind, hcollect, Duration.isZero, beq_iff_eq]
  split <;> rfl

theorem of_make_eq_ok {plan : WatchPlan} (h : (make listed poll initial).value = .ok plan) :
    listed ≠ [] ∧ (∀ given ∈ listed, Text.trim given ≠ "") ∧ 0 < poll.nanos ∧
      plan = ⟨(listed.map Text.trim).eraseDups, poll, initial⟩ := by
  have hlisted : listed ≠ [] := by
    rintro rfl
    cases h
  by_cases hblank : ∃ given ∈ listed, Text.trim given = ""
  · rw [value_make_of_blank hblank] at h
    cases h
  · have hnonblank : ∀ given ∈ listed, Text.trim given ≠ "" :=
      fun given hgiven heq => hblank ⟨given, hgiven, heq⟩
    rw [value_make_of_nonblank hlisted hnonblank] at h
    split at h
    · cases h
    · next hpoll =>
      injection h with hplan
      exact ⟨hlisted, hnonblank, Nat.pos_of_ne_zero hpoll, hplan.symm⟩

/-- Whatever is listed and whatever the times are, this is what comes of it. -/
theorem makes_make (listed : List String) (poll initial : Duration) :
    Makes listed poll initial (make listed poll initial) := by
  have hlog : (make listed poll initial).log =
      (repeats ((listed.map Text.trim).takeWhile (· ≠ ""))).map repeatWarning := by
    rw [log_make]
    exact log_collect [] listed
  refine ⟨⟨?_, ?_⟩, ?_, ?_, ?_, value_make_of_blank, ?_, ?_, hlog, ?_⟩
  · rintro ⟨plan, hplan⟩
    obtain ⟨hlisted, hnonblank, hpoll, -⟩ := of_make_eq_ok hplan
    exact ⟨hlisted, hnonblank, hpoll⟩
  · rintro ⟨hlisted, hnonblank, hpoll⟩
    rw [value_make_of_nonblank hlisted hnonblank, if_neg (Nat.ne_of_gt hpoll)]
    exact ⟨_, rfl⟩
  · intro plan hplan
    obtain ⟨-, -, -, heq⟩ := of_make_eq_ok hplan
    exact heq
  · intro plan hplan
    refine ⟨?_, listable_make hplan⟩
    obtain ⟨hlisted, -, -, rfl⟩ := of_make_eq_ok hplan
    obtain ⟨given, rest, rfl⟩ := List.exists_cons_of_ne_nil hlisted
    simp [List.eraseDups_cons]
  · intro plan hplan
    obtain ⟨-, hnonblank, -, rfl⟩ := of_make_eq_ok hplan
    have hall : (listed.map Text.trim).takeWhile (· ≠ "") = listed.map Text.trim := by
      rw [List.takeWhile_eq_self_iff]
      simpa using hnonblank
    rw [hlog, hall, List.length_map, length_repeats_add_length_eraseDups, List.length_map]
  · rintro rfl
    rfl
  · intro hlisted hnonblank hpoll
    rw [value_make_of_nonblank hlisted hnonblank, if_pos hpoll]
  · intro plan hplan
    have hagain := make_services hplan
    obtain ⟨-, -, -, rfl⟩ := of_make_eq_ok hplan
    exact hagain

/-- A name that is listed again with blanks around it is a repeat; a blank one after it
keeps its own repeats from being warned of. -/
example :
    make ["b", "a", " b\t"] (.ofMillis 5) .zero =
        ⟨.ok ⟨["b", "a"], .ofMillis 5, .zero⟩, [repeatWarning "b"]⟩ ∧
      make ["b", " b", "\u3000", "b"] .zero .zero =
        ⟨.error (.malformed .services .blankService), [repeatWarning "b"]⟩ := by
  decide +kernel

end WatchPlan

end ServiceSupervisor
