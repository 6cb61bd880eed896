import ServiceSupervisor.Registry.Reader

/-!
  Proofs/Registry/Snapshot.lean --- reading a value of the registry while it changes.

  The value may grow, shrink, change its type or vanish between any two calls.  The reader
  still comes to an end, and what it reads is the whole of one answer: that to its last
  call.
-/

set_option autoImplicit false

namespace ServiceSupervisor.Registry

open Settings

/-! ## Answers in the order in which they are given -/

/-- A failure has a code of its own, which means neither success nor want of room. -/
def Answer.Regular : Answer → Prop
  | fails code => code ≠ 0 ∧ code ≠ 234
  | holds _ => True

instance (a : Answer) : Decidable a.Regular :=
  match a with
  | .fails code => inferInstanceAs (Decidable (code ≠ 0 ∧ code ≠ 234))
  | .holds _ => inferInstanceAs (Decidable True)

/-- The answer to call number `i`: the last one repeats, and without any there is no such
value. -/
def Answers.nth (as : Answers) (i : Nat) : Answer :=
  (as[min i (as.length - 1)]?).getD (.fails 2)

theorem Answers.nth_zero (as : Answers) : as.nth 0 = as.next.1 := by
  match as with
  | [] => rfl
  | [_] => rfl
  | _ :: _ :: _ => rfl

theorem Answers.nth_succ (as : Answers) (i : Nat) : as.nth (i + 1) = as.next.2.nth i := by
  match as with
  | [] => rfl
  | [a] => simp [nth, next]
  | a :: a' :: rest =>
    have hmin : min (i + 1) (rest.length + 1) = min i rest.length + 1 := by omega
    simp [nth, next, hmin]

theorem Answers.regular_next {as : Answers} (h : ∀ a ∈ as, a.Regular) :
    as.next.1.Regular ∧ ∀ a ∈ as.next.2, a.Regular := by
  match as with
  | [] => exact ⟨by decide, h⟩
  | [a] => exact ⟨h a List.mem_cons_self, h⟩
  | a :: a' :: rest =>
    exact ⟨h a List.mem_cons_self, fun b hb => h b (List.mem_cons_of_mem a hb)⟩

/-! ## The loop -/

/-- After this answer the reader asks again: it had no buffer and there is something to
read, or its buffer was too small. -/
def AsksAgain (buffer : List UInt8) (a : Answer) : Prop :=
  (a.reply buffer).code = success ∧ buffer = [] ∧ 0 < (a.reply buffer).size ∨
    (a.reply buffer).code = moreData

/-- How the reader asks for a value, beginning with a buffer, for as long as it takes.  Each
further buffer is new, and holds zeros. -/
inductive Asks : List UInt8 → Answers → Outcome → Prop
  | again {buffer : List UInt8} {as : Answers} {rest : Outcome}
    (hagain : AsksAgain buffer as.next.1)
    (h : Asks (List.replicate (as.next.1.reply buffer).size 0) as.next.2 rest) :
    Asks buffer as { rest with rooms := buffer.length :: rest.rooms }
  | settles {buffer : List UInt8} {as : Answers} (hsettles : ¬ AsksAgain buffer as.next.1) :
    Asks buffer as ⟨(as.next.1.reply buffer).outcome, [buffer.length], as.next.2⟩

variable {buffer : List UInt8} {room fuel : Nat} {as : Answers} {a : Answer} {o o' : Outcome}

theorem Asks.unique (h : Asks buffer as o) (h' : Asks buffer as o') : o' = o := by
  induction h generalizing o' with
  | again hagain _ ih =>
    cases h' with
    | again _ h => rw [ih h]
    | settles hsettles => exact absurd hagain hsettles
  | settles hsettles =>
    cases h' with
    | again hagain _ => exact absurd hagain hsettles
    | settles _ => rfl

theorem ask_of_asksAgain (h : AsksAgain buffer as.next.1) :
    ask (fuel + 1) buffer as =
      let rest := ask fuel (List.replicate (as.next.1.reply buffer).size 0) as.next.2
      { rest with rooms := buffer.length :: rest.rooms } := by
  rw [ask]
  exact if_pos h

theorem ask_of_not_asksAgain (h : ¬ AsksAgain buffer as.next.1) :
    ask (fuel + 1) buffer as =
      ⟨(as.next.1.reply buffer).outcome, [buffer.length], as.next.2⟩ := by
  rw [ask]
  exact if_neg h

theorem length_rooms_ask_le (fuel : Nat) (buffer : List UInt8) (as : Answers) :
    (ask fuel buffer as).rooms.length ≤ fuel := by
  induction fuel generalizing buffer as with
  | zero => exact Nat.le_refl 0
  | succ fuel ih =>
    by_cases hagain : AsksAgain buffer as.next.1
    · rw [ask_of_asksAgain hagain, List.length_cons]
      exact Nat.succ_le_succ (ih _ _)
    · rw [ask_of_not_asksAgain hagain, List.length_singleton]
      exact Nat.succ_le_succ (Nat.zero_le fuel)

/-- Only a value that does not fit makes the reader ask again. -/
theorem asksAgain_iff (h : a.Regular) :
    AsksAgain buffer a ↔ ∃ d, a = .holds d ∧ buffer.length < d.bytes.length := by
  cases a with
  | fails code =>
    have hcode : code ≠ success ∧ code ≠ moreData := h
    simp [AsksAgain, Answer.reply, hcode]
  | holds d =>
    simp only [AsksAgain, Answer.reply, Answer.holds.injEq, exists_eq_left']
    split
    · next hempty => simp [hempty, success, moreData]
    · next hroom =>
      split
      · next hsmall => simp [hsmall]
      · next hfits => simp [hroom, hfits, success, moreData]

theorem size_reply_holds (buffer : List UInt8) (d : Data) :
    ((Answer.holds d).reply buffer).size = d.bytes.length := by
  rw [Answer.reply]
  split
  · rfl
  · split <;> rfl

/-- Once the answers repeat themselves, the second call with the last one is the last. -/
theorem asks_ask (h : ∀ a ∈ as, a.Regular) (buffer : List UInt8) :
    Asks buffer as (ask (as.length + 1) buffer as) := by
  induction as generalizing buffer with
  | nil =>
    have hsettles : ¬ AsksAgain buffer (Answers.next []).1 := by
      rw [asksAgain_iff (Answers.regular_next h).1]
      rintro ⟨d, hd, -⟩
      cases hd
    rw [ask_of_not_asksAgain hsettles]
    exact .settles hsettles
  | cons a rest ih =>
    by_cases hagain : AsksAgain buffer (Answers.next (a :: rest)).1
    · rw [ask_of_asksAgain hagain]
      refine .again hagain ?_
      cases rest with
      | nil =>
        obtain ⟨d, rfl, -⟩ := (asksAgain_iff (h a List.mem_cons_self)).mp hagain
        -- the same answer comes again, and now there is room for it
        have hsettles :
            ¬ AsksAgain (List.replicate d.bytes.length 0) (Answers.next [.holds d]).1 := by
          refine mt (asksAgain_iff (h (.holds d) List.mem_cons_self)).mp ?_
          rintro ⟨d', hd, hlt⟩
          cases hd
          rw [List.length_replicate] at hlt
          exact Nat.lt_irrefl _ hlt
        simp only [Answers.next, size_reply_holds]
        rw [List.length_singleton, ask_of_not_asksAgain hsettles]
        exact .settles hsettles
      | cons a' rest => exact ih (fun b hb => h b (List.mem_cons_of_mem a hb)) _
    · rw [ask_of_not_asksAgain hagain]
      exact .settles hagain

/-! ## What is read -/

/-- What an answer says by itself. -/
def Answer.outcome : Answer → Except Nat Data
  | fails code => .error code
  | holds d => .ok d

/-- The reply that settles the matter leaves the value in the buffer, from its start on; the
size that it tells is where the value ends and the zeros behind it begin. -/
theorem outcome_of_not_asksAgain (h : a.Regular) (hsettles : ¬ AsksAgain buffer a) :
    (a.reply buffer).outcome = a.outcome := by
  cases a with
  | fails code => exact if_neg h.1
  | holds d =>
    have hfits : ¬ buffer.length < d.bytes.length := fun hlt =>
      hsettles ((asksAgain_iff h).mpr ⟨d, rfl, hlt⟩)
    simp only [Answer.reply, if_neg hfits, Answer.outcome]
    split
    · next hempty =>
      subst hempty
      have hbytes : d.bytes = [] := List.eq_nil_of_length_eq_zero (Nat.eq_zero_of_not_pos hfits)
      rw [Reply.outcome, if_pos rfl, List.take_nil, ← hbytes]
    · rw [Reply.outcome, if_pos rfl, take_overwrite]

/-- The calls for a value, and what came of them: each buffer is as large as the answer
before said, and larger than the buffer before; the last answer is the one that counts. -/
structure Outcome.Consistent (as : Answers) (room : Nat) (o : Outcome) : Prop where
  first : o.rooms.head? = some room
  increasing : o.rooms.Pairwise (· < ·)
  told : ∀ i next, o.rooms[i + 1]? = some next →
    ∃ d, as.nth i = .holds d ∧ d.bytes.length = next
  result_eq : o.result = (as.nth (o.rooms.length - 1)).outcome

/-- Each call either settles the matter or is followed by one with more room. -/
theorem Asks.consistent (h : Asks buffer as o) (hregular : ∀ a ∈ as, a.Regular) :
    o.Consistent as buffer.length := by
  induction h with
  | @again buffer as rest hagain _ ih =>
    obtain ⟨hnext, hleft⟩ := Answers.regular_next hregular
    obtain ⟨d, hd, hroom⟩ := (asksAgain_iff hnext).mp hagain
    have hrest := ih hleft
    rw [hd, size_reply_holds, List.length_replicate] at hrest
    obtain ⟨more, hmore⟩ : ∃ more, rest.rooms = d.bytes.length :: more :=
      List.head?_eq_some_iff.mp hrest.first
    refine ⟨rfl, ?_, ?_, ?_⟩
    · have hincreasing := hrest.increasing
      rw [hmore] at hincreasing
      rw [List.pairwise_cons, hmore]
      refine ⟨fun next hmem => ?_, hincreasing⟩
      rcases List.mem_cons.mp hmem with rfl | hmem
      · exact hroom
      · exact Nat.lt_trans hroom (List.rel_of_pairwise_cons hincreasing hmem)
    · intro i next hget
      rw [List.getElem?_cons_succ] at hget
      cases i with
      | zero =>
        rw [hmore, List.getElem?_cons_zero] at hget
        exact ⟨d, (as.nth_zero).trans hd, Option.some.inj hget⟩
      | succ i =>
        rw [Answers.nth_succ]
        exact hrest.told i next hget
    · have hresult : rest.result = (as.next.2.nth more.length).outcome := by
        rw [hrest.result_eq, hmore, List.length_cons, Nat.add_sub_cancel]
      simp only [hresult, hmore, List.length_cons, Nat.add_sub_cancel, Answers.nth_succ]
  | @settles buffer as hsettles =>
    refine ⟨rfl, List.pairwise_singleton _ _, ?_, ?_⟩
    · intro i next hget
      cases hget
    · rw [outcome_of_not_asksAgain (Answers.regular_next hregular).1 hsettles]
      exact congrArg Answer.outcome as.nth_zero.symm

/-! ## Settings -/

/-- The setting under a name as one answer has it. -/
def Answer.setting (key name : String) : Answer → Except Error (Option Value)
  | fails code =>
    if code = 2 then .ok none
    else .error (.unreadable (location key) (.registry name code))
  | holds d => .ok (some d.decode)

/-- What the calls for a value come to is what the setting is read as; the calls are noted,
and the answers that they used up are gone. -/
theorem run_read (r : Hive) (key name : String)
    (h : (readData (r.answers (untilNul key) (untilNul name))).result = a.outcome) :
    ((source key).read name).run r = (a.setting key name,
      { r.put (untilNul key) (untilNul name)
          (readData (r.answers (untilNul key) (untilNul name))).left with
        rooms := r.rooms ++ (readData (r.answers (untilNul key) (untilNul name))).rooms }) := by
  cases a with
  | fails code =>
    have hcode : code = notFound ↔ code = 2 := Iff.rfl
    simp only [source, ExceptT.run, h, Answer.outcome, Answer.setting, hcode]
    split <;> rfl
  | holds d => simp only [source, ExceptT.run, h, Answer.outcome, Answer.setting]

/-- The setting under `name` is read from a registry with the answers `as` for it: the calls
come to an end, and what they come to is what the answer to the last of them says. -/
structure Outcome.Settles (as : Answers) (key name : String) (r : Hive) (o : Outcome) :
    Prop where
  ends : ∀ o', Asks [] as o' ↔ o' = o
  calls_le : o.rooms.length ≤ as.length + 1
  consistent : o.Consistent as 0
  rooms_eq : (((source key).read name).run r).2.rooms = r.rooms ++ o.rooms
  setting_eq : (((source key).read name).run r).1 =
    (as.nth (o.rooms.length - 1)).setting key name

/-- However the value changes between the calls, it is read whole and from one answer. -/
theorem settles_read (r : Hive) (key name : String)
    (h : ∀ a ∈ r.answers (untilNul key) (untilNul name), a.Regular) :
    (readData (r.answers (untilNul key) (untilNul name))).Settles
      (r.answers (untilNul key) (untilNul name)) key name r := by
  have hasks : Asks [] _ (readData (r.answers (untilNul key) (untilNul name))) := asks_ask h []
  have hconsistent := hasks.consistent h
  have hread := run_read r key name hconsistent.result_eq
  refine ⟨fun o' => ⟨hasks.unique, ?_⟩, length_rooms_ask_le _ [] _, hconsistent, ?_, ?_⟩
  · rintro rfl
    exact hasks
  · rw [hread]
  · rw [hread]

/-- A value that outgrows its buffer and then shrinks, with another type each time, is read
as it was in the end; the failure after it does not matter. -/
theorem settles_read_shrinking :
    let as : Answers := [.holds ⟨1, [97, 0]⟩, .holds ⟨7, [97, 0, 0, 0, 0, 0]⟩,
      .holds ⟨4, [44, 1, 0, 0]⟩, .fails 5]
    let r : Hive := ⟨[(("svc", "LogLevel"), as)], [0]⟩
    r.answers "svc" "LogLevel" = as ∧ (∀ a ∈ as, a.Regular) ∧
      (((source "svc").read "LogLevel").run r).1 = .ok (some (.integer 300)) ∧
      (((source "svc").read "LogLevel").run r).2.rooms = [0, 0, 2, 6] := by
  intro as r
  have hkey : untilNul "svc" = "svc" := by decide +kernel
  have hname : untilNul "LogLevel" = "LogLevel" := by decide +kernel
  have has : r.answers (untilNul "svc") (untilNul "LogLevel") = as := by
    rw [hkey, hname]
    decide +kernel
  have hregular : ∀ a ∈ as, a.Regular := by decide +kernel
  have hrooms : (readData as).rooms = [0, 2, 6] := by decide +kernel
  have hsettles := settles_read r "svc" "LogLevel" (has ▸ hregular)
  rw [has] at hsettles
  refine ⟨by rw [← has, hkey, hname], hregular, ?_, ?_⟩
  · rw [hsettles.setting_eq, hrooms]
    rfl
  · rw [hsettles.rooms_eq, hrooms]
    rfl

end ServiceSupervisor.Registry
