import ServiceSupervisor.Journal
import ServiceSupervisor.Text.Utf16

/-!
  Scm/Api.lean --- the functions of the Windows service control manager.

  What a function answers may depend on how often it was called.  Every call is
  kept, with the arguments that matter.  Whatever opens something successfully
  gives a handle, numbered from one, and a handle is closed as soon as its use is
  over, however that ends.
-/

set_option autoImplicit false

namespace ServiceSupervisor.Scm

/-- A failed call's error: its number, and the system's own words for it. -/
structure Win32Error where
  code : Nat
  text : String
  deriving DecidableEq, Repr, Inhabited

namespace Win32Error

/-- The number that says that there is no service of the name. -/
def noSuchService : Nat := 1060

/-- The number that says that the service to be started runs already. -/
def alreadyRunning : Nat := 1056

end Win32Error

/-- The functions, by name. -/
inductive ApiFunction where
  | openManager | openService | queryStatus | startService | control | deleteService
  | closeHandle | createService | createKey | closeKey
  deriving DecidableEq, Repr, Inhabited

/-- What the interface calls the function. -/
def ApiFunction.name : ApiFunction → String
  | openManager => "OpenSCManagerW"
  | openService => "OpenServiceW"
  | queryStatus => "QueryServiceStatus"
  | startService => "StartServiceW"
  | control => "ControlService"
  | deleteService => "DeleteService"
  | closeHandle => "CloseServiceHandle"
  | createService => "CreateServiceW"
  | createKey => "RegCreateKeyW"
  | closeKey => "RegCloseKey"

/-- A call with the arguments that matter, names and commands as the function reads them. -/
inductive ApiCall where
  | openManager (access : Nat)
  | openService (manager : Nat) (name : String) (access : Nat)
  | queryStatus (service : Nat)
  | startService (service : Nat)
  /-- tells the service to stop -/
  | controlStop (service : Nat)
  | deleteService (service : Nat)
  | closeHandle (handle : Nat)
  /-- creates a service with a process of its own, started on demand -/
  | createService (manager : Nat) (name : String) (access : Nat) (command : String)
  | createKey (path : String)
  | closeKey (key : Nat)
  deriving DecidableEq, Repr, Inhabited

/-- A number in hexadecimal. -/
def hex (n : Nat) : String := "0x" ++ String.ofList (Nat.toDigits 16 n)

namespace ApiCall

/-- The function that is called. -/
def function : ApiCall → ApiFunction
  | openManager _ => .openManager
  | openService _ _ _ => .openService
  | queryStatus _ => .queryStatus
  | startService _ => .startService
  | controlStop _ => .control
  | deleteService _ => .deleteService
  | closeHandle _ => .closeHandle
  | createService _ _ _ _ => .createService
  | createKey _ => .createKey
  | closeKey _ => .closeKey

/-- What the function is called with. -/
def arguments : ApiCall → List String
  | openManager access => [hex access]
  | openService manager name access => [toString manager, name, hex access]
  | queryStatus service => [toString service]
  | startService service => [toString service]
  | controlStop service => [toString service, "1"]
  | deleteService service => [toString service]
  | closeHandle handle => [toString handle]
  | createService manager name access command =>
    [toString manager, name, hex access, "16", "3", "1", command]
  | createKey path => [path]
  | closeKey key => [toString key]

/-- The call on one line. -/
def text (c : ApiCall) : String := String.intercalate " " (c.function.name :: c.arguments)

end ApiCall

/-- A text as it is handed to a function: its code units, and a zero behind them. -/
def wide (s : String) : List UInt16 := Text.Utf16.encode s ++ [0]

/-- What a function reads from code units: it stops at the first zero. -/
def readWide (units : List UInt16) : String :=
  (Text.Utf16.decode? (units.takeWhile (· ≠ 0))).getD ""

/-- The text that a function reads when it is handed `s`. -/
def seen (s : String) : String := readWide (wide s)

/-- What a call is answered with. -/
inductive ApiAnswer where
  | fails (e : Win32Error)
  /-- it succeeds; a query tells the state of the service -/
  | succeeds (state : Nat)
  deriving DecidableEq, Repr, Inhabited

/-- The interface: what each function answers at its n-th call, the calls made, the
number of handles given out, and what was logged between the calls. -/
structure Interface where
  answer : ApiFunction → Nat → ApiAnswer
  calls : List ApiCall
  handles : Nat
  log : List Entry

namespace Interface

/-- An interface that nobody has called yet. -/
def new (answer : ApiFunction → Nat → ApiAnswer) : Interface := ⟨answer, [], 0, []⟩

/-- How often a function was called. -/
def count (i : Interface) (f : ApiFunction) : Nat := (i.calls.filter (·.function = f)).length

/-- What a call would be answered with now. -/
def next (i : Interface) (c : ApiCall) : ApiAnswer := i.answer c.function (i.count c.function)

/-- Keeps a call among those that were made. -/
def keep (i : Interface) (c : ApiCall) : Interface := { i with calls := i.calls ++ [c] }

end Interface

/-- A use of the interface.  The calls it made stay made when it fails. -/
abbrev Session (ε : Type) : Type → Type := ExceptT ε (StateM Interface)

namespace Session

variable {ε α : Type}

/-- Logs an entry. -/
def note (e : Entry) : Session ε Unit := fun i => (.ok (), { i with log := i.log ++ [e] })

/-- Turns the error of a session into another. -/
def mapError {δ : Type} (f : ε → δ) (s : Session ε α) : Session δ α := fun i =>
  let (r, i) := s i
  (r.mapError f, i)

/-- Makes a call; tells the state it answers. -/
def call (c : ApiCall) : Session Win32Error Nat := fun i =>
  match i.next c with
  | .fails e => (.error e, i.keep c)
  | .succeeds state => (.ok state, i.keep c)

/-- Makes a call that opens something; tells the handle. -/
def acquire (c : ApiCall) : Session Win32Error Nat := fun i =>
  match i.next c with
  | .fails e => (.error e, i.keep c)
  | .succeeds _ => (.ok (i.handles + 1), { i.keep c with handles := i.handles + 1 })

/-- Opens something, goes on with its handle, and closes it in the end. -/
def holding (opening : Session ε Nat) (closing : Nat → ApiCall) (body : Nat → Session ε α) :
    Session ε α := fun i =>
  match opening i with
  | (.error e, i) => (.error e, i)
  | (.ok handle, i) =>
    let (r, i) := body handle i
    (r, (call (closing handle) i).2)

end Session

end ServiceSupervisor.Scm
