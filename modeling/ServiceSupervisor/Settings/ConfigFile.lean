import ServiceSupervisor.Environment
import ServiceSupervisor.Files.Tree
import ServiceSupervisor.Settings.OwnName
import ServiceSupervisor.Settings.Source
import ServiceSupervisor.Toml.Table

/-!
  Settings/ConfigFile.lean --- settings in a TOML file.

  The names of the settings are keys at the top of the file.  A reader tries to
  read the file until it succeeds once, and then answers from what it read,
  whatever becomes of the file; so no two values ever come from different
  versions of it.  How a text is parsed is left open.
-/

set_option autoImplicit false

namespace ServiceSupervisor.Settings

/-- The files as they are, and the table that was read from one, if it was. -/
structure FileReader where
  tree : Tree
  table : Option Toml.Entries
  deriving Repr, Inhabited

namespace ConfigFile

/-- How the text of a file is read as a table: it may be refused, with a reason. -/
abbrev Parser : Type := String → Except String Toml.Entries

/-- The folder that the settings of all supervisors are in. -/
def base (env : Environment) : String :=
  match env.scope with
  | .system => "/etc"
  | .user => env.configFolder?.getD "."

/-- Where the settings of a supervisor are kept unless another file is named. -/
def defaultPath (env : Environment) (name : OwnName) : String :=
  Path.join (Path.join (base env) name.text) (name.text ++ ".toml")

/-- The text of a string node. -/
def stringOf? : Toml.Node → Option String
  | .scalar (.string s) => some s
  | _ => none

/-- The setting that a node of the file holds. -/
def valueOf : Toml.Node → Value
  | .scalar (.integer n) => if 0 ≤ n then .integer n.toNat else .other "negative integer"
  | .scalar (.string s) => .text s
  | .scalar .float => .other "float"
  | .scalar .boolean => .other "boolean"
  | .scalar .datetime => .other "datetime"
  | .array items =>
    match items.mapM stringOf? with
    | some xs => .textList xs
    | none => .other "mixed array"
  | .tables _ => .other "mixed array"
  | .table _ _ => .other "table"

/-- Reads and parses the file as it is now. -/
def parse (parser : Parser) (path : String) (tree : Tree) : Except Error Toml.Entries :=
  match tree.readText path with
  | .error e => .error (.unreadable path (.file e))
  | .ok text =>
    match parser text with
    | .error reason => .error (.unreadable path (.syntaxFault reason))
    | .ok table => .ok table

/-- The table that was read before, or else the one in the file, which is kept. -/
def table (parser : Parser) (path : String) : Reading FileReader Toml.Entries := fun r =>
  match r.table with
  | some t => (.ok t, r)
  | none =>
    match parse parser path r.tree with
    | .ok t => (.ok t, { r with table := some t })
    | .error e => (.error e, r)

/-- The source that answers from the file at `path`. -/
def source (parser : Parser) (path : String) : Source FileReader where
  location := path
  read name := do
    let t ← table parser path
    pure ((t.get? name).map valueOf)

end ConfigFile

end ServiceSupervisor.Settings
