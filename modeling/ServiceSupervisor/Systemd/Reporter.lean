import ServiceSupervisor.Supervisor.Controller

/-!
  Systemd/Reporter.lean --- what systemd would be told of the supervisor's stages.

  Each stage after the first has its message.  Without a connection to systemd
  the message is only logged.
-/

set_option autoImplicit false

namespace ServiceSupervisor.Systemd

/-- The variable and value that stand for a stage. -/
def message? : Stage → Option (String × String)
  | .initializing => none
  | .startPending => some ("STATUS", "starting")
  | .running => some ("READY", "1")
  | .stopPending => some ("STOPPING", "1")
  | .stopped => some ("STATUS", "stopped")

/-- The line that stands for the message of a stage. -/
def messageNote (stage : Stage) (m : String × String) : Entry :=
  ⟨.host, .debug, stage.name ++ ": " ++ m.1 ++ "=" ++ m.2 ++ " (sd_notify disabled)"⟩

/-- Logs what systemd would be told. -/
def reporter : Reporter Unit where
  report stage u := (⟨none, ((message? stage).map (messageNote stage)).toList, []⟩, u)

end ServiceSupervisor.Systemd
