import ServiceSupervisor.Files.FileError
import ServiceSupervisor.Text.Quoted

/-!
  Settings/Error.lean --- why the settings, or the supervisor's own name, cannot be used.
-/

set_option autoImplicit false

namespace ServiceSupervisor.Settings

/-- The settings the supervisor knows. -/
inductive Key where
  | services
  | pollInterval
  | initialDelay
  | logPath
  | logLevel
  deriving DecidableEq, Repr, Inhabited

/-- The name under which a setting is stored. -/
def Key.name : Key → String
  | .services => "ServicesExpectedRunning"
  | .pollInterval => "SleepDurationMilliseconds"
  | .initialDelay => "InitialSleepDurationMilliseconds"
  | .logPath => "LogPath"
  | .logLevel => "LogLevel"

/-- What is wrong with a service name. -/
inductive NameFault where
  | blank
  /-- it holds a slash, a backslash or a NUL -/
  | separator (name : String)
  /-- the program's path ends in no name, or in one that is not text -/
  | noFileName (path : String)
  deriving DecidableEq, Repr, Inhabited

/-- What is wrong with the value of a setting. -/
inductive ValueFault where
  | blankService
  | noServices
  | zeroInterval
  | wrongType (wanted found : String)
  deriving DecidableEq, Repr, Inhabited

/-- Why a store of settings cannot be read. -/
inductive ReadFault where
  | file (e : FileError)
  /-- the text of the file is no document, in the parser's own words -/
  | syntaxFault (reason : String)
  /-- the registry answered with an error code -/
  | registry (value : String) (code : Nat)
  /-- any other reason, in the store's own words -/
  | refused (reason : String)
  deriving DecidableEq, Repr, Inhabited

/-- Why the settings cannot be used. -/
inductive Error where
  | missing (key : Key)
  | badName (fault : NameFault)
  | malformed (key : Key) (fault : ValueFault)
  | unreadable (location : String) (fault : ReadFault)
  deriving DecidableEq, Repr, Inhabited

/-- What is said about the fault. -/
def NameFault.message : NameFault → String
  | blank => "name is empty"
  | separator name => Text.quote name ++ " contains a path separator or NUL"
  | noFileName path => "executable path " ++ path ++ " has no usable file name"

/-- What is said about the fault. -/
def ValueFault.message : ValueFault → String
  | blankService => "contains an empty service name"
  | noServices => "no services listed"
  | zeroInterval => "poll interval must be greater than zero"
  | wrongType wanted found => "expected " ++ wanted ++ ", found " ++ found

/-- What is said about the fault. -/
def ReadFault.message : ReadFault → String
  | file e => e.message
  | syntaxFault reason => reason
  | registry value code => "reading " ++ value ++ " failed with error " ++ toString code
  | refused reason => reason

/-- What is said about the error, which names the setting or the place it is about. -/
def Error.message : Error → String
  | missing key => "required configuration value " ++ key.name ++ " is missing"
  | badName fault => "configuration value service name is malformed: " ++ fault.message
  | malformed key fault =>
    "configuration value " ++ key.name ++ " is malformed: " ++ fault.message
  | unreadable location fault =>
    "failed to read configuration from " ++ location ++ ": " ++ fault.message

end ServiceSupervisor.Settings
