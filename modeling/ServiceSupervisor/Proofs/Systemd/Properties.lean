import Mathlib.Logic.Relation
import ServiceSupervisor.Proofs.Text.Split
import ServiceSupervisor.Proofs.Text.Trim
import ServiceSupervisor.Systemd.Show

/-!
  Proofs/Systemd/Properties.lean --- what the properties of a unit tell, however they are
  written.

  Only two values count: the last that is given to `LoadState` and the last that is given
  to `ActiveState`.  So the rest of what is written, the order in which it stands, the way
  lines end and the blanks around the two values make no difference.
-/

set_option autoImplicit false

namespace ServiceSupervisor.Systemd

variable {key line raw text : List Char} {lines before after : List (List Char)}
  {name : String}

/-! ## Lines that give a value -/

/-- The line gives `raw` to the property `key`: the key ends at the first equals sign. -/
structure Gives (line key raw : List Char) : Prop where
  plain : '=' ∉ key
  eq : line = key ++ '=' :: raw

theorem splitProperty_eq_some_iff : splitProperty line = some (key, raw) ↔ Gives line key raw := by
  constructor
  · intro h
    have hparts := List.takeWhile_append_dropWhile (p := (· ≠ '=')) (l := line)
    rw [splitProperty] at h
    split at h
    · next value hdrop =>
      cases h
      rw [hdrop] at hparts
      refine ⟨fun hmem => ?_, hparts.symm⟩
      simpa using List.mem_takeWhile_imp hmem
    · cases h
  · rintro ⟨hplain, rfl⟩
    have hkey : ∀ c ∈ key, decide (c ≠ '=') = true := by
      intro c hc
      rw [decide_eq_true_eq]
      rintro rfl
      exact hplain hc
    rw [splitProperty, List.dropWhile_append_of_pos hkey, List.takeWhile_append_of_pos hkey]
    simp

theorem valueOf_of_gives {own : List Char} (h : Gives line own raw) :
    valueOf key line = if own = key then some (Text.trimChars raw) else none := by
  simp only [valueOf, splitProperty_eq_some_iff.mpr h]

theorem valueOf_eq_some_iff {value : List Char} :
    valueOf key line = some value ↔ ∃ raw, Gives line key raw ∧ value = Text.trimChars raw := by
  constructor
  · intro h
    rw [valueOf] at h
    split at h
    · next found raw hsplit =>
      split at h
      · next hfound =>
        subst hfound
        cases h
        exact ⟨raw, splitProperty_eq_some_iff.mp hsplit, rfl⟩
      · cases h
    · cases h
  · rintro ⟨raw, hgives, rfl⟩
    rw [valueOf_of_gives hgives, if_pos rfl]

theorem valueOf_eq_none_iff : valueOf key line = none ↔ ∀ raw, ¬ Gives line key raw := by
  rw [Option.eq_none_iff_forall_ne_some]
  constructor
  · intro h raw hgives
    exact h _ (valueOf_eq_some_iff.mpr ⟨raw, hgives, rfl⟩)
  · intro h value hvalue
    obtain ⟨raw, hgives, -⟩ := valueOf_eq_some_iff.mp hvalue
    exact h raw hgives

/-! ## The last value -/

/-- The value that a property has in the end, without the blanks around it: that of the
last line that gives it one. -/
inductive LastValue (name : String) (lines : List (List Char)) : Option String → Prop
  | none (h : ∀ line ∈ lines, ∀ raw, ¬ Gives line name.toList raw) : LastValue name lines none
  | some {before after : List (List Char)} {line raw : List Char}
    (hlines : lines = before ++ line :: after) (hgives : Gives line name.toList raw)
    (hlast : ∀ line ∈ after, ∀ raw, ¬ Gives line name.toList raw) :
    LastValue name lines (some (String.ofList (Text.trimChars raw)))

theorem filterMap_valueOf_eq_nil (h : ∀ line ∈ lines, ∀ raw, ¬ Gives line key raw) :
    lines.filterMap (valueOf key) = [] := by
  rw [List.filterMap_eq_nil_iff]
  exact fun line hline => valueOf_eq_none_iff.mpr (h line hline)

theorem property_of_lastValue {value? : Option String} (h : LastValue name lines value?) :
    property name lines = value? := by
  cases h with
  | none h => rw [property, filterMap_valueOf_eq_nil h, List.getLast?_nil, Option.map_none]
  | some hlines hgives hlast =>
    have hvalue : valueOf name.toList _ = _ := valueOf_eq_some_iff.mpr ⟨_, hgives, rfl⟩
    rw [property, hlines, List.filterMap_append, List.filterMap_cons_some hvalue,
      filterMap_valueOf_eq_nil hlast, List.getLast?_concat, Option.map_some]

theorem exists_lastValue (name : String) (lines : List (List Char)) :
    ∃ value?, LastValue name lines value? := by
  induction lines with
  | nil => exact ⟨none, .none (by simp)⟩
  | cons line lines ih =>
    obtain ⟨value?, h⟩ := ih
    cases h with
    | some hlines hgives hlast =>
      exact ⟨_, .some (hlines ▸ (List.cons_append ..).symm) hgives hlast⟩
    | none hlast =>
      by_cases hgives : ∃ raw, Gives line name.toList raw
      · obtain ⟨raw, hgives⟩ := hgives
        exact ⟨_, .some (List.nil_append _).symm hgives hlast⟩
      · rw [not_exists] at hgives
        exact ⟨none, .none (List.forall_mem_cons.mpr ⟨hgives, hlast⟩)⟩

/-- The lines give a property the value that it has last. -/
theorem property_eq_iff {value? : Option String} :
    property name lines = value? ↔ LastValue name lines value? := by
  obtain ⟨found?, h⟩ := exists_lastValue name lines
  constructor
  · rintro rfl
    rwa [property_of_lastValue h]
  · exact property_of_lastValue

/-! ## What the values mean -/

/-- The status that a state of a unit stands for. -/
inductive StateMeans : String → Status → Prop
  | active : StateMeans "active" .running
  | reloading : StateMeans "reloading" .running
  | inactive : StateMeans "inactive" .stopped
  | failed : StateMeans "failed" .stopped
  | activating : StateMeans "activating" .pending
  | deactivating : StateMeans "deactivating" .pending
  | refreshing : StateMeans "refreshing" .pending
  | maintenance : StateMeans "maintenance" .pending

theorem statusOf_eq_some_iff {state : String} {status : Status} :
    statusOf state = some status ↔ StateMeans state status := by
  constructor
  · intro h
    simp only [statusOf, List.mem_cons, List.not_mem_nil, or_false] at h
    split at h
    · next hstate => rcases hstate with rfl | rfl <;> cases h <;> constructor
    · split at h
      · next hstate => rcases hstate with rfl | rfl <;> cases h <;> constructor
      · split at h
        · next hstate => rcases hstate with rfl | rfl | rfl | rfl <;> cases h <;> constructor
        · cases h
  · rintro (_ | _) <;> rfl

/-! ## What makes no difference -/

theorem splitProperty_eq_none_iff : splitProperty line = none ↔ '=' ∉ line := by
  constructor
  · intro h hmem
    obtain ⟨key, raw, hline, hkey⟩ := List.eq_append_cons_of_mem hmem
    rw [splitProperty_eq_some_iff.mpr ⟨hkey, hline⟩] at h
    cases h
  · intro h
    cases hsplit : splitProperty line with
    | none => rfl
    | some pair =>
      have hgives : Gives line pair.1 pair.2 := splitProperty_eq_some_iff.mp hsplit
      exact absurd (hgives.eq ▸ by simp) h

/-- Blanks at the end of a line make no difference to the value it gives. -/
theorem valueOf_append_blank {right : List Char} (h : ∀ c ∈ right, Text.isBlank c = true)
    (key line : List Char) : valueOf key (line ++ right) = valueOf key line := by
  have hplain : '=' ∉ right := fun hmem => absurd (h '=' hmem) (by decide)
  cases hsplit : splitProperty line with
  | none =>
    have hboth : '=' ∉ line ++ right := by
      simp [splitProperty_eq_none_iff.mp hsplit, hplain]
    rw [valueOf, valueOf, hsplit, splitProperty_eq_none_iff.mpr hboth]
  | some pair =>
    obtain ⟨found, raw⟩ := pair
    obtain ⟨hfound, rfl⟩ := splitProperty_eq_some_iff.mp hsplit
    have hgives : Gives (found ++ '=' :: raw ++ right) found (raw ++ right) :=
      ⟨hfound, by rw [List.append_assoc, List.cons_append]⟩
    rw [valueOf_of_gives hgives, valueOf_of_gives ⟨hfound, rfl⟩, Text.trimChars_append_blank h]

theorem withoutReturn_cases (line : List Char) :
    line = Text.withoutReturn line ++ ['\r'] ∨
      line = Text.withoutReturn line ∧ ∀ front, line ≠ front ++ ['\r'] := by
  rw [Text.withoutReturn]
  split
  · next rest hreverse =>
    refine Or.inl ?_
    rw [← List.reverse_cons, ← hreverse, List.reverse_reverse]
  · next hother =>
    refine Or.inr ⟨rfl, ?_⟩
    rintro front rfl
    exact hother front.reverse (by simp)

theorem valueOf_withoutReturn (key line : List Char) :
    valueOf key (Text.withoutReturn line) = valueOf key line := by
  rcases withoutReturn_cases line with h | ⟨h, -⟩
  · conv_rhs => rw [h]
    rw [valueOf_append_blank (List.forall_mem_singleton.mpr (by decide))]
  · rw [← h]

/-- The lines of a text, by its parts between line feeds. -/
theorem exists_lines_eq (text : List Char) : ∃ ended last,
    Text.split '\n' text = ended ++ [last] ∧
      Text.lines text =
        ended.map Text.withoutReturn ++ if last = [] then [] else [last] := by
  obtain ⟨ended, last, hparts⟩ :=
    (List.eq_nil_or_concat _).resolve_left (Text.split_ne_nil '\n' text)
  rw [List.concat_eq_append] at hparts
  refine ⟨ended, last, hparts, ?_⟩
  simp only [Text.lines, hparts, List.reverse_append, List.reverse_singleton,
    List.singleton_append, List.reverse_reverse]

/-- The way in which lines end makes no difference to what they give. -/
theorem filterMap_lines (key text : List Char) :
    (Text.lines text).filterMap (valueOf key) = (Text.split '\n' text).filterMap (valueOf key) := by
  obtain ⟨ended, last, hparts, hlines⟩ := exists_lines_eq text
  have hended : (ended.map Text.withoutReturn).filterMap (valueOf key) =
      ended.filterMap (valueOf key) := by
    rw [List.filterMap_map]
    exact congrArg (List.filterMap · ended) (funext (valueOf_withoutReturn key))
  have hlast : (if last = [] then [] else [last]).filterMap (valueOf key) =
      [last].filterMap (valueOf key) := by
    split
    · next hnil =>
      subst hnil
      rfl
    · rfl
  rw [hlines, hparts, List.filterMap_append, List.filterMap_append, hended, hlast]

/-- How the lines of a text are its parts between line feeds: a carriage return before a line
feed belongs to that, and behind the last line feed is a line unless nothing is there. -/
inductive LinesOf : List (List Char) → List (List Char) → Prop
  | closed : LinesOf [[]] []
  | unclosed {line : List Char} (h : line ≠ []) : LinesOf [line] [line]
  | ended {line : List Char} {parts lines : List (List Char)}
    (hline : ∀ front, line ≠ front ++ ['\r']) (rest : LinesOf parts lines) :
    LinesOf (line :: parts) (line :: lines)
  | returned {line : List Char} {parts lines : List (List Char)} (rest : LinesOf parts lines) :
    LinesOf ((line ++ ['\r']) :: parts) (line :: lines)

theorem linesOf_lines (text : List Char) :
    LinesOf (Text.split '\n' text) (Text.lines text) := by
  obtain ⟨ended, last, hparts, hlines⟩ := exists_lines_eq text
  rw [hparts, hlines]
  -- the parts that end with a line feed, from the first on
  clear hparts hlines
  induction ended with
  | nil =>
    by_cases hlast : last = []
    · rw [hlast]
      exact .closed
    · rw [if_neg hlast]
      exact .unclosed hlast
  | cons line ended ih =>
    rw [List.map_cons, List.cons_append, List.cons_append]
    rcases withoutReturn_cases line with hline | ⟨hline, hplain⟩
    · conv_lhs => rw [hline]
      exact .returned ih
    · rw [← hline]
      exact .ended hplain ih

/-- The values that the lines of a text give to a property, in order. -/
def given (key text : List Char) : List (List Char) :=
  (Text.split '\n' text).filterMap (valueOf key)

/-- Lines put together to a text, with a line feed between them. -/
def joined (lines : List (List Char)) : List Char := List.intercalate ['\n'] lines

/-- A line that says nothing about the two properties that count. -/
def Irrelevant (line : List Char) : Prop :=
  ∀ raw, ¬ Gives line "LoadState".toList raw ∧ ¬ Gives line "ActiveState".toList raw

/-- The key that a line gives a value to. -/
def keyOf? (line : List Char) : Option (List Char) := (splitProperty line).map (·.1)

/-- A text and the same properties written in another way. -/
inductive Rewritten : List Char → List Char → Prop
  /-- with one more line, before, between or behind the others -/
  | inserted (before after : List (List Char)) {line : List Char} (hline : '\n' ∉ line)
    (h : Irrelevant line) :
    Rewritten (joined (before ++ after)) (joined (before ++ line :: after))
  /-- with its lines in another order, that of the lines of each key apart -/
  | permuted {lines lines' : List (List Char)} (hlines : ∀ line ∈ lines, '\n' ∉ line)
    (hperm : lines.Perm lines')
    (horder : ∀ key, lines.filter (keyOf? · = some key) = lines'.filter (keyOf? · = some key)) :
    Rewritten (joined lines) (joined lines')
  /-- with a carriage return before the end of a line -/
  | returned (before after : List (List Char)) {line : List Char} (hline : '\n' ∉ line)
    (hend : after ≠ []) :
    Rewritten (joined (before ++ line :: after)) (joined (before ++ (line ++ ['\r']) :: after))
  /-- without the end of its last line -/
  | unended (text : List Char) : Rewritten (text ++ ['\n']) text
  /-- with more spaces and tabs around one of the two values -/
  | padded (before after : List (List Char)) {key raw left right : List Char}
    (hkey : key = "LoadState".toList ∨ key = "ActiveState".toList) (hraw : '\n' ∉ raw)
    (hleft : ∀ c ∈ left, c = ' ' ∨ c = '\t') (hright : ∀ c ∈ right, c = ' ' ∨ c = '\t') :
    Rewritten (joined (before ++ (key ++ '=' :: raw) :: after))
      (joined (before ++ (key ++ '=' :: (left ++ raw ++ right)) :: after))

/-- Every text is its lines put together. -/
theorem joined_split (text : List Char) : joined (Text.split '\n' text) = text := by
  induction text with
  | nil => rfl
  | cons c text ih =>
    obtain ⟨line, lines, hlines⟩ := List.exists_cons_of_ne_nil (Text.split_ne_nil '\n' text)
    rw [Text.split, hlines]
    rw [hlines, joined] at ih
    split
    · next hc => rw [joined, List.intercalate_cons_cons, ih, hc]; rfl
    · cases lines <;> simp_all [joined]

theorem given_append_newline (key text rest : List Char) :
    given key (text ++ '\n' :: rest) = given key text ++ given key rest := by
  rw [given, Text.split_append_sep, List.filterMap_append, given, given]

theorem given_of_not_mem (hline : '\n' ∉ line) : given key line = (valueOf key line).toList := by
  rw [given, Text.split_of_not_mem hline]
  cases h : valueOf key line <;> simp [h]

theorem given_joined (key : List Char) (lines : List (List Char)) :
    given key (joined lines) = lines.flatMap (given key) := by
  induction lines with
  | nil => rfl
  | cons line lines ih =>
    cases lines with
    | nil => simp [joined]
    | cons next lines =>
      have hjoined : joined (line :: next :: lines) = line ++ '\n' :: joined (next :: lines) := by
        simp [joined]
      rw [hjoined, given_append_newline, ih]
      rfl

/-- Whether two lines are the same to a property is decided by the lines of its key. -/
theorem filterMap_filter_keyOf? (key : List Char) (lines : List (List Char)) :
    (lines.filter (keyOf? · = some key)).filterMap (valueOf key) =
      lines.filterMap (valueOf key) := by
  rw [List.filterMap_filter]
  congr 1
  funext line
  cases hsplit : splitProperty line with
  | none => simp [keyOf?, valueOf, hsplit]
  | some pair => by_cases hkey : pair.1 = key <;> simp [keyOf?, valueOf, hsplit, hkey]

theorem isBlank_of_pad {c : Char} (h : c = ' ' ∨ c = '\t') : Text.isBlank c = true := by
  rcases h with rfl | rfl <;> decide

theorem Irrelevant.valueOf_eq_none (h : Irrelevant line)
    (hkey : key = "LoadState".toList ∨ key = "ActiveState".toList) : valueOf key line = none := by
  rw [valueOf_eq_none_iff]
  intro raw
  rcases hkey with rfl | rfl
  · exact (h raw).1
  · exact (h raw).2

/-- However the properties are written, the two that count are given the same values. -/
theorem Rewritten.given_eq {text text' : List Char} (h : Rewritten text text')
    (hkey : key = "LoadState".toList ∨ key = "ActiveState".toList) :
    given key text = given key text' := by
  cases h with
  | inserted before after hline hirrelevant =>
    simp [given_joined, given_of_not_mem hline, hirrelevant.valueOf_eq_none hkey]
  | @permuted lines lines' hlines hperm horder =>
    have hgiven : ∀ lines : List (List Char), (∀ line ∈ lines, '\n' ∉ line) →
        given key (joined lines) = lines.filterMap (valueOf key) := by
      intro lines hlines
      rw [given_joined, List.filterMap_eq_flatMap_toList]
      exact List.flatMap_congr fun line hline => given_of_not_mem (hlines line hline)
    rw [hgiven lines hlines, hgiven lines' fun line hline => hlines line (hperm.mem_iff.mpr hline),
      ← filterMap_filter_keyOf?, horder key, filterMap_filter_keyOf?]
  | @returned before after line hline =>
    have hreturn : '\n' ∉ line ++ ['\r'] := by simp [hline]
    have hvalue : valueOf key (line ++ ['\r']) = valueOf key line :=
      valueOf_append_blank (List.forall_mem_singleton.mpr (by decide)) key line
    simp only [given_joined, List.flatMap_append, List.flatMap_cons, given_of_not_mem hline,
      given_of_not_mem hreturn, hvalue]
  | unended => rw [given_append_newline]; exact List.append_nil _
  | @padded before after own raw left right hown hraw hleft hright =>
    have hplain : '=' ∉ own ∧ '\n' ∉ own := by rcases hown with rfl | rfl <;> decide
    have hpads : '\n' ∉ left ∧ '\n' ∉ right :=
      ⟨fun hmem => by simpa using hleft _ hmem, fun hmem => by simpa using hright _ hmem⟩
    have hlines : '\n' ∉ own ++ '=' :: raw ∧ '\n' ∉ own ++ '=' :: (left ++ raw ++ right) := by
      simp [hplain, hraw, hpads]
    have htrim : Text.trimChars (left ++ raw ++ right) = Text.trimChars raw := by
      rw [Text.trimChars_append_blank fun c hc => isBlank_of_pad (hright c hc),
        Text.trimChars_blank_append fun c hc => isBlank_of_pad (hleft c hc)]
    have hvalue : valueOf key (own ++ '=' :: (left ++ raw ++ right)) =
        valueOf key (own ++ '=' :: raw) := by
      rw [valueOf_of_gives ⟨hplain.1, rfl⟩, valueOf_of_gives ⟨hplain.1, rfl⟩, htrim]
    simp only [given_joined, List.flatMap_append, List.flatMap_cons, given_of_not_mem hlines.1,
      given_of_not_mem hlines.2, hvalue]

theorem given_eq_of_eqvGen {text text' : List Char} (h : Relation.EqvGen Rewritten text text')
    (hkey : key = "LoadState".toList ∨ key = "ActiveState".toList) :
    given key text = given key text' := by
  induction h with
  | rel _ _ h => exact h.given_eq hkey
  | refl => rfl
  | symm _ _ _ ih => exact ih.symm
  | trans _ _ _ _ _ ih ih' => exact ih.trans ih'

/-! ## The status -/

variable {unit out out' : String} {load active : Option String}

/-- The lines of a text give the two properties that count these last values. -/
structure LastValues (out : String) (load active : Option String) : Prop where
  load : LastValue "LoadState" (Text.lines out.toList) load
  active : LastValue "ActiveState" (Text.lines out.toList) active

/-- What a unit with these last values is found to be. -/
structure ShownAs (unit : String) (load active : Option String)
    (answer : Except QueryError Status) : Prop where
  /-- a unit that is not there is not found, whatever else is told of it -/
  notFound_iff : answer = .error (.notFound unit) ↔ load = some "not-found"
  /-- any other has the status that its state stands for -/
  status_iff : ∀ status, answer = .ok status ↔
    load ≠ some "not-found" ∧ ∃ state, active = some state ∧ StateMeans state status
  /-- and there is no telling if it stands for none, or if there is none -/
  host_iff : ∀ reason, answer = .error (.host unit reason) ↔
    load ≠ some "not-found" ∧
      ((active = none ∧ reason = "systemctl reported no ActiveState") ∨
        ∃ state, active = some state ∧ (∀ status, ¬ StateMeans state status) ∧
          reason = "unrecognised ActiveState " ++ Text.quote state)
  /-- nothing else can come of it -/
  cases : answer = .error (.notFound unit) ∨ (∃ status, answer = .ok status) ∨
    ∃ reason, answer = .error (.host unit reason)
  certain : answer ≠ .ok .unknown ∧ answer ≠ .ok .paused

/-- What the properties of a unit tell, written as `out`. -/
structure Shows (unit out : String) : Prop where
  /-- there are two last values, and they decide what the unit is found to be, -/
  shown : ∃ load active, LastValues out load active ∧ ShownAs unit load active (parseShow unit out)
  /-- so that nothing else of what is written makes a difference, -/
  alone : ∀ out' load active, LastValues out load active → LastValues out' load active →
    parseShow unit out' = parseShow unit out
  /-- nor does writing its lines in any other way, -/
  rewritten : ∀ out', Relation.EqvGen Rewritten out.toList out'.toList →
    parseShow unit out' = parseShow unit out
  /-- for any text is written in parts between line feeds, and those are its lines -/
  lines : joined (Text.split '\n' out.toList) = out.toList ∧
    (∀ part ∈ Text.split '\n' out.toList, '\n' ∉ part) ∧
    LinesOf (Text.split '\n' out.toList) (Text.lines out.toList)

theorem StateMeans.certain {state : String} {status : Status} (h : StateMeans state status) :
    status ≠ .unknown ∧ status ≠ .paused := by
  cases h <;> decide

theorem shownAs_of_lastValues (h : LastValues out load active) :
    ShownAs unit load active (parseShow unit out) := by
  simp only [parseShow, property_of_lastValue h.load, property_of_lastValue h.active]
  by_cases hload : load = some "not-found"
  · rw [if_pos hload]
    exact ⟨by simp [hload], by simp [hload], by simp [hload], by simp, by simp⟩
  rw [if_neg hload]
  cases active with
  | none => exact ⟨by simp [hload], by simp, by simp [hload, eq_comm], by simp, by simp⟩
  | some state =>
    cases hstatus : statusOf state with
    | some status =>
      have hmeans : ∀ other, StateMeans state other ↔ status = other := by
        intro other
        rw [← statusOf_eq_some_iff, hstatus, Option.some.injEq]
      simp only [hstatus]
      have hcertain := (statusOf_eq_some_iff.mp hstatus).certain
      exact ⟨by simp [hload], by simp [hload, hmeans], by simp [hmeans], by simp, by simpa⟩
    | none =>
      have hmeans : ∀ status, ¬ StateMeans state status := by
        intro status
        rw [← statusOf_eq_some_iff, hstatus]
        simp
      simp only [hstatus]
      exact ⟨by simp [hload], by simp [hmeans], by simp [hload, hmeans, eq_comm], by simp, by simp⟩

/-- Texts that give the two properties the same values show the same. -/
theorem parseShow_congr
    (h : ∀ key : List Char, key = "LoadState".toList ∨ key = "ActiveState".toList →
      given key out.toList = given key out'.toList) (unit : String) :
    parseShow unit out = parseShow unit out' := by
  have hproperty : ∀ name : String, name = "LoadState" ∨ name = "ActiveState" →
      property name (Text.lines out.toList) = property name (Text.lines out'.toList) := by
    intro name hname
    have hkey : name.toList = "LoadState".toList ∨ name.toList = "ActiveState".toList := by
      rcases hname with rfl | rfl <;> simp
    have hgiven := h name.toList hkey
    rw [given, given] at hgiven
    rw [property, property, filterMap_lines, filterMap_lines, hgiven]
  simp only [parseShow, hproperty "LoadState" (Or.inl rfl), hproperty "ActiveState" (Or.inr rfl)]

/-- Whatever is written, two of its values are all that it tells. -/
theorem shows_parseShow (unit out : String) : Shows unit out where
  shown := by
    have h : LastValues out (property "LoadState" (Text.lines out.toList))
        (property "ActiveState" (Text.lines out.toList)) :=
      ⟨property_eq_iff.mp rfl, property_eq_iff.mp rfl⟩
    exact ⟨_, _, h, shownAs_of_lastValues h⟩
  alone := by
    intro out' load active h h'
    simp only [parseShow, property_of_lastValue h.load, property_of_lastValue h.active,
      property_of_lastValue h'.load, property_of_lastValue h'.active]
  rewritten := by
    intro out' h
    exact (parseShow_congr (fun key hkey => given_eq_of_eqvGen h hkey) unit).symm
  lines := ⟨joined_split out.toList, fun _ => Text.not_mem_of_mem_split, linesOf_lines out.toList⟩

/-- The last state counts, up to its first blanks and with a carriage return behind it. -/
example :
    parseShow "db" "ActiveState=failed\nLoadState=loaded\r\nId=a=b\nActiveState=\treloading \r" =
      .ok .running := by
  decide +kernel

end ServiceSupervisor.Systemd
