import ServiceSupervisor.Logging.Stamp
import ServiceSupervisor.Program

/-!
  Main.lean --- the program as a command.

  The command takes a picture of the files that a run is about, runs on the picture
  and makes the changes that the run made to it.  It starts no other programs, so
  `systemctl` counts as one that is not there.
-/

set_option autoImplicit false

namespace ServiceSupervisor

/-- Every path on the way to a path, and the path itself. -/
def pathsTo (path : String) : List String :=
  (Path.steps path).foldl (fun paths s =>
    paths ++ [match paths.getLast? with
      | some around => Path.join around s
      | none => if Path.isAbsolute path then "/" ++ s else s]) []

/-- Adds what stands at a path to the picture.  What cannot be read is left out. -/
def picture (t : Tree) (path : String) : IO Tree := do
  match t.locate path with
  | .error _ => pure t
  | .ok p =>
    match ← (IO.FS.realPath path).toBaseIO with
    | .error _ => pure t
    | .ok file =>
      if ← file.isDir then pure (t.put p .folder)
      else
        match ← (IO.FS.readBinFile file).toBaseIO with
        | .ok content => pure (t.put p (.file content.toList))
        | .error _ => pure t

/-- Adds what the disk has at some paths to a picture of it. -/
def pictureAll (t : Tree) (paths : List String) : IO Tree := paths.foldlM picture t

/-- The files that an invocation may read or write, but for the log. -/
def concerned (w : World) (i : CommandLine.Invocation) : List String :=
  match OwnName.resolve i.name (Text.Utf8.encode w.program) with
  | .error _ => []
  | .ok name =>
    let u : Systemd.UnitSpec := ⟨name, w.program, none, w.env.scope, false⟩
    settingsPath w name i.config ::
      (match Systemd.unitFolder? w.env with
       | some folder => [u.path folder, u.temporary folder]
       | none => [])

/-- The log that the settings in a picture name. -/
def namedLog (settings : String) (t : Tree) : List String :=
  match ((LogTarget.load (settingsFile settings)).run ⟨t, none⟩).1 with
  | .ok (some target) => [target.path]
  | _ => []

/-- The picture of all that an invocation is about. -/
def survey (w : World) (here : String) (i : CommandLine.Invocation) : IO Tree := do
  let t ← pictureAll ⟨[], Path.steps here, []⟩ (pathsTo here)
  let paths := concerned w i
  let t ← pictureAll t (paths.flatMap pathsTo)
  pictureAll t ((paths.take 1).flatMap fun settings => (namedLog settings t).flatMap pathsTo)

/-- Makes the changes that lead from one picture to another: what is gone goes first,
and a folder comes before what is in it. -/
def change (before after : Tree) : IO Unit := do
  let path := fun (p : Place) => "/" ++ String.intercalate "/" p
  for (p, _) in before.items do
    if (after.get? p).isNone then IO.FS.removeFile (path p)
  for (p, i) in after.items.mergeSort fun a b => a.1.length ≤ b.1.length do
    if before.get? p ≠ some i then
      match i with
      | .folder => IO.FS.createDir (path p)
      | .file content => IO.FS.writeBinFile (path p) ⟨content.toArray⟩
  for (p, mode) in after.modes do
    IO.Prim.setAccessRights (path p) mode.toUInt32

/-- The number behind a word in what the system tells of this process. -/
def told (status word : String) : Nat :=
  let line := (Text.split '\n' status.toList).find? fun l => (word ++ ":").toList.isPrefixOf l
  let digits := ((line.getD []).dropWhile fun c => !c.isDigit).takeWhile Char.isDigit
  digits.foldl (fun n c => 10 * n + (c.toNat - '0'.toNat)) 0

/-- The home folder of a user in a list of accounts, one to a line. -/
def accountHome (accounts : String) (user : Nat) : Option String :=
  (Text.split '\n' accounts.toList).findSome? fun line =>
    let fields := Text.split ':' line
    if fields[2]? = some (toString user).toList then fields[5]?.map String.ofList else none

/-- What the program finds around it on this machine. -/
def surroundings : IO World := do
  let process ← IO.FS.realPath "/proc/self"
  let status ← IO.FS.readFile "/proc/self/status"
  let accounts := (← (IO.FS.readFile "/etc/passwd").toBaseIO).toOption.getD ""
  let user := told status "Uid"
  let now := (← process.metadata).modified
  let bindings ← ["HOME", "XDG_CONFIG_HOME", "RUST_LOG"].filterMapM fun name => do
    pure ((← IO.getEnv name).map (name, ·))
  let env := Environment.ofAccount user bindings (accountHome accounts user)
  pure ⟨env, (← IO.appPath).toString, toString (told status "Pid"),
    Logging.stamp now.sec.toNat (now.nsec.toNat / 1000000), []⟩

/-- How many steps of the supervisor a run is followed for before it is shown. -/
def followed : Nat := 100

/-- Waits for a signal, which ends the process. -/
partial def waitForSignal : IO Unit := do
  IO.sleep 60000
  waitForSignal

end ServiceSupervisor

open ServiceSupervisor

/-- Runs the program on the machine it is started on. -/
def main (arguments : List String) : IO UInt32 := do
  let w ← surroundings
  let here ← IO.currentDir
  let tree ← match CommandLine.read arguments with
    | .ok i => survey w here.toString i
    | .error _ => pure ⟨[], [], []⟩
  let systemctl : Systemd.Systemctl := ⟨fun _ => .missing .missing, []⟩
  let (exit, e) := Program.run w arguments followed ⟨"", .new tree, systemctl⟩
  change tree e.book.tree
  (← IO.getStdout).putStr e.out
  (← IO.getStderr).putStr e.book.errors
  match exit with
  | some code => pure code.toUInt32
  | none =>
    (← IO.getStdout).flush
    waitForSignal
    pure 0
