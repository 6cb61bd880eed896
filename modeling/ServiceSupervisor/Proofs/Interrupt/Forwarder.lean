import ServiceSupervisor.Interrupt.Forwarder

/-!
  Proofs/Interrupt/Forwarder.lean --- what comes of signals, however they fall between looks.

  The looks cut the numbers of the signals into batches.  Each look answers for the batch
  before it, by the last number of that batch alone, and the forwarder sends on what the
  first batch that asks for anything asks for.
-/

set_option autoImplicit false

namespace ServiceSupervisor.Interrupt

/-! ## Numbers -/

/-- What the signal of a number asks for: `SIGTERM` has number 15 and `SIGINT` number 2. -/
def asked (number : Int32) : Option Request :=
  if number = 15 then some .stop else if number = 2 then some .interrupt else none

/-- No number is lost in the word that is put down for it. -/
theorem ofNat_word (number : Int32) : Int32.ofNat (word number) = number := by
  apply Int32.toBitVec_inj.mp
  change BitVec.ofNat 32 (number.toBitVec.signExtend 64).toNat = number.toBitVec
  rw [BitVec.ofNat_toNat]
  ext i hi
  have hi' : i < 64 := by omega
  rw [BitVec.getElem_setWidth, BitVec.getLsbD_signExtend]
  simp [hi, hi']

theorem cut_word (number : Int32) : cut (word number) = number.toInt := by
  rw [cut, ofNat_word]

theorem word_eq_zero_iff (number : Int32) : word number = 0 ↔ number = 0 := by
  constructor
  · intro h
    rw [← ofNat_word number, h]
    rfl
  · rintro rfl
    rfl

theorem name?_eq_some_iff {i : Nat} {name : String} (hname : names[i]? = some name) (w : Nat) :
    name? w = some name ↔ cut w = i + 1 := by
  have hnodup : names.Nodup := by decide
  have hi : i < names.length := (List.getElem?_eq_some_iff.mp hname).1
  rw [name?]
  constructor
  · intro h
    split at h
    · next hpositive =>
      have hsame := (List.getElem?_inj hi hnodup).mp (hname.trans h.symm)
      omega
    · cases h
  · intro h
    rw [if_pos (by omega), h]
    simpa using hname

theorem value_requestFor (w : Nat) : (requestFor w).value =
    if cut w = 15 then some .stop else if cut w = 2 then some .interrupt else none := by
  have hterm : name? w = some "SIGTERM" ↔ cut w = 15 := name?_eq_some_iff (i := 14) rfl w
  have hint : name? w = some "SIGINT" ↔ cut w = 2 := name?_eq_some_iff (i := 1) rfl w
  rw [requestFor]
  split
  · next h =>
    rw [if_pos (hterm.mp h)]
    rfl
  · next h =>
    have hnumber := hint.mp h
    rw [if_neg (by omega), if_pos hnumber]
    rfl
  · next name hstop hinterrupt h =>
    rw [h, Option.some_inj] at hterm hint
    rw [if_neg fun heq => hstop (hterm.mpr heq), if_neg fun heq => hinterrupt (hint.mpr heq)]
    rfl
  · next h =>
    have hterm' : ¬ cut w = 15 := fun heq => nomatch h.symm.trans (hterm.mpr heq)
    have hint' : ¬ cut w = 2 := fun heq => nomatch h.symm.trans (hint.mpr heq)
    rw [if_neg hterm', if_neg hint']
    rfl

theorem value_requestFor_word (number : Int32) :
    (requestFor (word number)).value = asked number := by
  have hterm : number.toInt = 15 ↔ number = 15 := Int32.toInt_inj (y := 15)
  have hint : number.toInt = 2 ↔ number = 2 := Int32.toInt_inj (y := 2)
  rw [value_requestFor, cut_word, asked]
  simp only [hterm, hint]

/-- Whatever else the number of a signal brings about is an error in the log. -/
theorem level_of_mem_requestFor {w : Nat} {e : Entry} (h : e ∈ (requestFor w).log) :
    e.level = .error := by
  rw [requestFor] at h
  split at h
  · cases h
  · cases h
  · rw [List.mem_singleton.mp h]
  · rw [List.mem_singleton.mp h]

/-! ## Batches -/

/-- What happens to a cell: a signal comes, or someone looks into it. -/
inductive Moment where
  | signal (number : Int32)
  | look
  deriving DecidableEq, Repr

/-- The number of the signal, if one comes. -/
def Moment.number? : Moment → Option Int32
  | signal number => some number
  | look => none

/-- The numbers of all signals that come. -/
def numbers (moments : List Moment) : List Int32 := moments.filterMap Moment.number?

@[simp] theorem numbers_signal (number : Int32) (rest : List Moment) :
    numbers (.signal number :: rest) = number :: numbers rest := rfl

@[simp] theorem numbers_look (rest : List Moment) : numbers (.look :: rest) = numbers rest := rfl

/-- The numbers that come before each look, from the look before it on; the first look has
`pending` before it as well. -/
def batches (pending : List Int32) : List Moment → List (List Int32)
  | [] => []
  | .signal number :: rest => batches (pending ++ [number]) rest
  | .look :: rest => pending :: batches [] rest

/-- The numbers that come when nobody looks any more. -/
def leftover (pending : List Int32) : List Moment → List Int32
  | [] => pending
  | .signal number :: rest => leftover (pending ++ [number]) rest
  | .look :: rest => leftover [] rest

/-- What a batch asks for: only the last number of it counts. -/
def lastAsked (batch : List Int32) : Option Request := batch.getLast?.bind asked

/-- What the looks are answered, one after the other. -/
def answers (c : Cell) : List Moment → List (Logged (Option Request))
  | [] => []
  | .signal number :: rest => answers (c.record (word number)) rest
  | .look :: rest => c.check.1 :: answers c.check.2 rest

variable {pending batch : List Int32} {moments more : List Moment} {number : Int32}
  {bs : List (List Int32)}

/-- Every number is in one batch, or left over. -/
theorem flatten_batches (pending : List Int32) (moments : List Moment) :
    (batches pending moments).flatten ++ leftover pending moments =
      pending ++ numbers moments := by
  induction moments generalizing pending with
  | nil => simp [batches, leftover, numbers]
  | cons moment rest ih =>
    cases moment with
    | signal number =>
      rw [batches, leftover, ih, numbers_signal, List.append_assoc, List.singleton_append]
    | look =>
      rw [batches, leftover, List.flatten_cons, List.append_assoc, ih, numbers_look,
        List.nil_append]

theorem mem_numbers_of_mem_batches (hbatch : batch ∈ batches [] moments)
    (hnumber : number ∈ batch) : number ∈ numbers moments := by
  have hflatten : _ = numbers moments := flatten_batches [] moments
  rw [← hflatten]
  exact List.mem_append_left _ (List.mem_flatten_of_mem hbatch hnumber)

/-- As many numbers at least ask for a thing as batches do. -/
theorem count_lastAsked_le (r : Request) (bs : List (List Int32)) :
    (bs.map lastAsked).count (some r) ≤ bs.flatten.countP (asked · = some r) := by
  induction bs with
  | nil => exact Nat.le_refl 0
  | cons batch bs ih =>
    rw [List.map_cons, List.flatten_cons, List.countP_append, List.count_cons]
    by_cases hasks : lastAsked batch = some r
    · obtain ⟨number, hlast, hnumber⟩ := Option.bind_eq_some_iff.mp hasks
      have hpositive : 0 < batch.countP (asked · = some r) :=
        List.countP_pos_iff.mpr ⟨number, List.mem_of_getLast? hlast, by simpa using hnumber⟩
      simp only [hasks, BEq.rfl, if_true]
      omega
    · simp only [beq_iff_eq, hasks, if_false]
      omega

theorem isSome_lastAsked (h : ∀ number ∈ batch, number = 2 ∨ number = 15) :
    (lastAsked batch).isSome = !batch.isEmpty := by
  rcases List.eq_nil_or_concat batch with rfl | ⟨front, number, rfl⟩
  · rfl
  · have hnumber := h number (by simp)
    rw [List.concat_eq_append, lastAsked, List.getLast?_concat]
    rcases hnumber with rfl | rfl <;> simp [asked]

/-! ## Looks -/

/-- The cell after some numbers have come since the last look. -/
def Cell.holding (pending : List Int32) : Cell :=
  pending.getLast?.elim .empty fun number => Cell.empty.record (word number)

theorem record_holding (pending : List Int32) (number : Int32) :
    (Cell.holding pending).record (word number) = .holding (pending ++ [number]) := by
  simp [Cell.holding, Cell.record]

theorem value_check_holding (pending : List Int32) :
    (Cell.holding pending).check.1.value = lastAsked pending := by
  rw [Cell.holding, lastAsked]
  cases pending.getLast? with
  | none => rfl
  | some number =>
    simp only [Option.elim_some, Option.bind_some, Cell.check, Cell.record, word_eq_zero_iff]
    split
    · next hzero =>
      subst hzero
      rfl
    · exact value_requestFor_word number

/-- Looks are answered for the batches before them. -/
theorem value_answers_holding (pending : List Int32) (moments : List Moment) :
    (answers (.holding pending) moments).map (·.value) =
      (batches pending moments).map lastAsked := by
  induction moments generalizing pending with
  | nil => rfl
  | cons moment rest ih =>
    cases moment with
    | signal number => rw [answers, record_holding, ih, batches]
    | look =>
      rw [answers, batches, List.map_cons, List.map_cons, value_check_holding]
      exact congrArg _ (ih [])

/-! ## The forwarder -/

/-- The moment as it is for a forwarder, which sees words. -/
def Moment.act : Moment → Forwarder.Act
  | signal number => .signal (word number)
  | look => .look

/-- The lines about what was sent: all others are errors. -/
def sends (log : List Entry) : List Entry := log.filter (·.level = .info)

theorem sends_append (log log' : List Entry) : sends (log ++ log') = sends log ++ sends log' :=
  List.filter_append log log'

theorem sends_check (c : Cell) : sends c.check.1.log = [] := by
  rw [Cell.check]
  split
  · rfl
  · refine List.filter_eq_nil_iff.mpr fun e he => ?_
    simp [level_of_mem_requestFor he]

/-- A new forwarder when all of this has happened. -/
def forwarded (moments : List Moment) : Forwarder := Forwarder.new.run (moments.map Moment.act)

/-- Signals come, one after the other. -/
def Cell.recordAll (c : Cell) (numbers : List Int32) : Cell :=
  numbers.foldl (fun c number => c.record (word number)) c

variable {f : Forwarder} {r : Request}

theorem act_look_of_none (hsent : f.sent = none) (h : f.cell.check.1.value = none) :
    f.act .look = ⟨.empty, none, f.looks + 1, f.log ++ f.cell.check.1.log⟩ := by
  simp only [Forwarder.act, hsent, h]
  rfl

theorem act_look_of_some (hsent : f.sent = none) (h : f.cell.check.1.value = some r) :
    f.act .look = ⟨.empty, some r, f.looks + 1,
      f.log ++ f.cell.check.1.log ++ [Forwarder.sendNote r]⟩ := by
  simp only [Forwarder.act, hsent, h]
  rfl

theorem act_look_of_sent (hsent : f.sent = some r) : f.act .look = f := by
  simp only [Forwarder.act, hsent]

/-- Signals go on changing the cell of a forwarder that has sent a request, and that is all. -/
theorem run_of_sent (hsent : f.sent = some r) (moments : List Moment) :
    f.run (moments.map Moment.act) = { f with cell := f.cell.recordAll (numbers moments) } := by
  induction moments generalizing f with
  | nil => rfl
  | cons moment rest ih =>
    rw [List.map_cons, Forwarder.run, List.foldl_cons, ← Forwarder.run]
    cases moment with
    | signal number => exact ih (f := { f with cell := f.cell.record (word number) }) hsent
    | look =>
      rw [Moment.act, act_look_of_sent hsent]
      exact ih hsent

/-- What a forwarder that has sent nothing makes of some batches. -/
structure Forwards (f f' : Forwarder) (bs : List (List Int32)) : Prop where
  /-- It sends what the first batch that asks for anything asks for, -/
  sent_eq : f'.sent = bs.findSome? lastAsked
  /-- looks once at that batch and at each before it, -/
  looks_eq : f'.looks =
    f.looks + (bs.takeWhile (lastAsked · = none)).length + f'.sent.toList.length
  /-- and says what it sends when it sends it. -/
  sends_eq : sends f'.log = sends f.log ++ f'.sent.toList.map Forwarder.sendNote

theorem forwards_run (hsent : f.sent = none) (hcell : f.cell = .holding pending)
    (moments : List Moment) :
    Forwards f (f.run (moments.map Moment.act)) (batches pending moments) := by
  induction moments generalizing f pending with
  | nil => exact ⟨hsent, by simp [Forwarder.run, batches, hsent], by simp [Forwarder.run, hsent]⟩
  | cons moment rest ih =>
    rw [List.map_cons, Forwarder.run, List.foldl_cons, ← Forwarder.run]
    cases moment with
    | signal number =>
      have hcell' : f.cell.record (word number) = .holding (pending ++ [number]) := by
        rw [hcell, record_holding]
      obtain ⟨hsent', hlooks, hsends⟩ :=
        ih (f := { f with cell := f.cell.record (word number) }) hsent hcell'
      exact ⟨hsent', hlooks, hsends⟩
    | look =>
      have hvalue : f.cell.check.1.value = lastAsked pending := by
        rw [hcell, value_check_holding]
      rw [Moment.act, batches]
      cases hasks : lastAsked pending with
      | none =>
        -- it goes on with an empty cell
        rw [act_look_of_none hsent (hvalue.trans hasks)]
        have hempty : Cell.empty = .holding [] := rfl
        obtain ⟨hsent', hlooks, hsends⟩ := ih (f := ⟨.empty, none, f.looks + 1,
          f.log ++ f.cell.check.1.log⟩) rfl hempty
        refine ⟨?_, ?_, ?_⟩
        · rw [List.findSome?_cons, hasks]
          exact hsent'
        · rw [hlooks, List.takeWhile_cons_of_pos (by simpa using hasks), List.length_cons]
          dsimp only
          omega
        · rw [hsends, sends_append, sends_check, List.append_nil]
      | some r =>
        -- it has done its work
        rw [act_look_of_some hsent (hvalue.trans hasks), run_of_sent rfl]
        refine ⟨?_, ?_, ?_⟩
        · rw [List.findSome?_cons, hasks]
        · rw [List.takeWhile_cons_of_neg (by simp [hasks])]
          rfl
        · rw [sends_append, sends_append, sends_check, List.append_nil]
          rfl

/-! ## The main statement -/

/-- What comes of signals that fall between looks in some order. -/
structure Heeds (moments : List Moment) : Prop where
  /-- Each look is answered for the batch before it, by the last number in it. -/
  answers_eq : (answers .empty moments).map (·.value) = (batches [] moments).map lastAsked
  /-- Every number is in one batch, in its order, or comes when nobody looks any more, -/
  flatten_eq : (batches [] moments).flatten ++ leftover [] moments = numbers moments
  /-- so no more answers are a request than signals came that ask for it; -/
  count_le : ∀ r, ((answers .empty moments).map (·.value)).count (some r) ≤
    (numbers moments).countP (asked · = some r)
  /-- and if all signals ask for something, so does every look that any came before. -/
  isSome_eq : (∀ number ∈ numbers moments, number = 2 ∨ number = 15) →
    (answers .empty moments).map (·.value.isSome) = (batches [] moments).map (!·.isEmpty)
  /-- The forwarder sends one request at most, the first one that a look is answered with, -/
  forwards : Forwards .new (forwarded moments) (batches [] moments)
  /-- and leaves the cell to the signals then. -/
  rests : (forwarded moments).sent ≠ none → ∀ more, forwarded (moments ++ more) =
    { forwarded moments with cell := (forwarded moments).cell.recordAll (numbers more) }

/-- In whatever order signals come and someone looks, the last signal before a look is heeded,
and the forwarder sends on the first request of all. -/
theorem heeds_moments (moments : List Moment) : Heeds moments := by
  have hanswers := value_answers_holding [] moments
  have hflatten : _ = numbers moments := flatten_batches [] moments
  refine ⟨hanswers, hflatten, fun r => ?_, fun hall => ?_, ?_, fun hsent more => ?_⟩
  · rw [← hflatten, List.countP_append]
    have hcount := count_lastAsked_le r (batches [] moments)
    rw [← hanswers] at hcount
    exact Nat.le_add_right_of_le hcount
  · have hsome := congrArg (List.map Option.isSome) hanswers
    rw [List.map_map, List.map_map] at hsome
    refine hsome.trans (List.map_congr_left fun batch hbatch => ?_)
    exact isSome_lastAsked fun number hnumber =>
      hall number (mem_numbers_of_mem_batches hbatch hnumber)
  · exact forwards_run rfl rfl moments
  · obtain ⟨r, hr⟩ := Option.ne_none_iff_exists'.mp hsent
    rw [forwarded, List.map_append, Forwarder.run, List.foldl_append]
    exact run_of_sent hr more

end ServiceSupervisor.Interrupt
