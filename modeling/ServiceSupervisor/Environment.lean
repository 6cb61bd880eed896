import ServiceSupervisor.Files.Path

/-!
  Environment.lean --- who runs the program, and where that user's settings live.
-/

set_option autoImplicit false

namespace ServiceSupervisor

/-- Whether something concerns the whole machine or one user of it. -/
inductive Scope where
  | system
  | user
  deriving DecidableEq, Repr, Inhabited

/-- What a log line calls the scope. -/
def Scope.name : Scope → String
  | system => "System"
  | user => "User"

/-- The user that runs the program, by number, the environment variables, and the folder
for the settings of that user, if there is one. -/
structure Environment where
  user : Nat
  bindings : List (String × String)
  configFolder? : Option String
  deriving DecidableEq, Repr, Inhabited

namespace Environment

/-- The value of a variable. -/
def get? (env : Environment) (name : String) : Option String :=
  (env.bindings.find? fun v => v.1 = name).map (·.2)

/-- The superuser acts for the whole machine. -/
def scope (env : Environment) : Scope := if env.user = 0 then .system else .user

/-- The environment of a user whose account has a home folder, if it has one.  The folder
for settings is the one that is named, if its name is absolute, or else the usual one in
the home folder, which the variables may name as well. -/
def ofAccount (user : Nat) (bindings : List (String × String)) (home : Option String) :
    Environment :=
  let env : Environment := ⟨user, bindings, none⟩
  let named := (env.get? "XDG_CONFIG_HOME").filter Path.isAbsolute
  let home := ((env.get? "HOME").filter (!·.isEmpty)).or (home.filter (!·.isEmpty))
  { env with configFolder? := named.or (home.map (Path.join · ".config")) }

end Environment

end ServiceSupervisor
