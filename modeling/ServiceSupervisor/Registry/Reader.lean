import ServiceSupervisor.Registry.Value
import ServiceSupervisor.Settings.OwnName

/-!
  Registry/Reader.lean --- settings in the registry.

  A value is asked for without a buffer first, which tells its size, and then
  with a buffer of that size.  It may change in between: if it has outgrown the
  buffer, it is asked for again with one that fits; if it has shrunk, the buffer
  is cut to the size that it has now.
-/

set_option autoImplicit false

namespace ServiceSupervisor.Registry

open Settings

/-- What the registry has to say when it is asked for a value. -/
inductive Answer where
  | fails (code : Nat)
  | holds (data : Data)
  deriving DecidableEq, Repr, Inhabited

/-- The code that says that the value was read. -/
def success : Nat := 0

/-- The code that says that there is no such value. -/
def notFound : Nat := 2

/-- The code that says that the buffer is too small. -/
def moreData : Nat := 234

/-- One reply: its code, the size and the type of the value that it tells, and the
buffer after the call. -/
structure Reply where
  code : Nat
  size : Nat
  type : Nat
  buffer : List UInt8
  deriving DecidableEq, Repr, Inhabited

/-- A buffer after bytes were written to its start. -/
def overwrite (buffer bytes : List UInt8) : List UInt8 := bytes ++ buffer.drop bytes.length

theorem take_overwrite (buffer bytes : List UInt8) :
    (overwrite buffer bytes).take bytes.length = bytes :=
  List.take_left

/-- The reply to a call with a buffer, none if it is empty.  Without a buffer only the
size is told; one that is too small gets what fits, and the call is refused; a failed
call leaves the buffer as it was. -/
def Answer.reply (buffer : List UInt8) : Answer → Reply
  | fails code => ⟨code, buffer.length, 0, buffer⟩
  | holds data =>
    if buffer = [] then ⟨success, data.bytes.length, data.type, []⟩
    else if buffer.length < data.bytes.length then
      ⟨moreData, data.bytes.length, data.type, overwrite buffer (data.bytes.take buffer.length)⟩
    else ⟨success, data.bytes.length, data.type, overwrite buffer data.bytes⟩

/-- What the last reply comes to: the buffer, cut to the size of the value. -/
def Reply.outcome (r : Reply) : Except Nat Data :=
  if r.code = success then .ok ⟨r.type, r.buffer.take r.size⟩ else .error r.code

/-- The answers that are still to come for one value; the last one repeats. -/
abbrev Answers : Type := List Answer

/-- The next answer, and the answers after it.  A value without answers does not
exist. -/
def Answers.next : Answers → Answer × Answers
  | [] => (.fails notFound, [])
  | [a] => (a, [a])
  | a :: as => (a, as)

/-- What came of reading one value: the data, or the code of the failure; the room
offered in each call; and the answers left. -/
structure Outcome where
  result : Except Nat Data
  rooms : List Nat
  left : Answers
  deriving Repr

/-- Asks until the value fits, each time with a buffer of zeros that is as large as the
value was.  Each further call has used up an answer, or offers the room that the repeated
last one asked for, so `fuel` calls are enough if they are one more than the answers. -/
def ask : Nat → List UInt8 → Answers → Outcome
  | 0, _, answers => ⟨.error moreData, [], answers⟩
  | fuel + 1, buffer, answers =>
    let (answer, left) := answers.next
    let reply := answer.reply buffer
    if (reply.code = success ∧ buffer = [] ∧ 0 < reply.size) ∨ reply.code = moreData then
      let rest := ask fuel (List.replicate reply.size 0) left
      { rest with rooms := buffer.length :: rest.rooms }
    else ⟨reply.outcome, [buffer.length], left⟩

/-- Reads one value.  The first call has no buffer. -/
def readData (answers : Answers) : Outcome := ask (answers.length + 1) [] answers

/-- The path of the key under which a service's settings are kept. -/
def parametersKey (name : OwnName) : String :=
  "SYSTEM\\CurrentControlSet\\Services\\" ++ name.text ++ "\\Parameters"

/-- The registry: the answers to come for each value of each key, and the room that
each call so far has offered. -/
structure Hive where
  values : List ((String × String) × Answers)
  rooms : List Nat
  deriving Repr, Inhabited

namespace Hive

/-- The answers that are left about a value. -/
def answers (r : Hive) (key value : String) : Answers :=
  match r.values.find? fun v => v.1 = (key, value) with
  | some v => v.2
  | none => []

/-- Leaves other answers about a value. -/
def put (r : Hive) (key value : String) (as : Answers) : Hive :=
  { r with values := r.values.map fun v => if v.1 = (key, value) then (v.1, as) else v }

end Hive

/-- A name as the registry takes it, which is up to its first NUL. -/
def untilNul (name : String) : String := String.ofList (name.toList.takeWhile (· ≠ '\x00'))

/-- The location of a key in messages. -/
def location (key : String) : String := "HKLM\\" ++ key

/-- The source that answers from the values of a key. -/
def source (key : String) : Source Hive where
  location := location key
  read name := fun r =>
    let value := untilNul name
    let outcome := readData (r.answers (untilNul key) value)
    let r' := { r.put (untilNul key) value outcome.left with rooms := r.rooms ++ outcome.rooms }
    match outcome.result with
    | .ok data => (.ok (some data.decode), r')
    | .error code =>
      if code = notFound then (.ok none, r')
      else (.error (.unreadable (location key) (.registry name code)), r')

/-- The source of a service's settings. -/
def ofService (name : OwnName) : Source Hive := source (parametersKey name)

end ServiceSupervisor.Registry
