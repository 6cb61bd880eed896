/-!
  Toml/Fault.lean --- why a text is not a TOML document.
-/

set_option autoImplicit false

namespace ServiceSupervisor.Toml

/-- Why a text is not a TOML document. -/
inductive Fault where
  | keyExpected
  | equalsExpected
  | valueExpected
  | lineEndExpected
  /-- a carriage return without a line feed, or another control character -/
  | controlCharacter
  /-- an array, inline table or table header is not closed -/
  | unclosed
  /-- arrays and inline tables stand in each other more often than allowed -/
  | tooDeep
  | badKey
  | badString
  | badScalar
  /-- a key is given twice, or a table is opened or extended twice -/
  | duplicate
  /-- a key leads through a value that is no open table -/
  | notATable
  /-- a dotted key has too many parts -/
  | keyTooLong
  deriving DecidableEq, Repr, Inhabited

/-- A key with too many parts is refused without saying where; every other fault
is an error of parsing. -/
def Fault.message : Fault → String
  | keyTooLong => "recursion limit\n"
  | keyExpected => "TOML parse error: a key is expected"
  | equalsExpected => "TOML parse error: an equals sign is expected after the key"
  | valueExpected => "TOML parse error: a value is expected"
  | lineEndExpected => "TOML parse error: nothing more may stand on the line"
  | controlCharacter => "TOML parse error: control characters are not allowed"
  | unclosed => "TOML parse error: a bracket is not closed"
  | tooDeep => "TOML parse error: values are nested too deeply"
  | badKey => "TOML parse error: the key is malformed"
  | badString => "TOML parse error: the string is malformed"
  | badScalar => "TOML parse error: the value is malformed"
  | duplicate => "TOML parse error: the key is defined twice"
  | notATable => "TOML parse error: the key leads through a value"

end ServiceSupervisor.Toml
