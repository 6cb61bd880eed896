import ServiceSupervisor.Environment
import ServiceSupervisor.Files.Tree
import ServiceSupervisor.Logging.Filter
import ServiceSupervisor.Text.Plain

/-!
  Logging/Logbook.lean --- where records go.

  A logger is set once.  It writes the records that its filter admits to the
  standard error stream or to the end of a file, one line each, freed of terminal
  sequences.  The environment can add to the filter.
-/

set_option autoImplicit false

namespace ServiceSupervisor.Logging

/-- One record, with the place in the program that it comes from. -/
structure Record where
  target : String
  level : Level
  text : String
  file : Option String
  line : Option Nat
  deriving DecidableEq, Repr, Inhabited

namespace Record

/-- The record of an entry, which knows the part of the program and no line. -/
def ofEntry (e : Entry) : Record := ⟨e.part.target, e.level, e.text, some e.part.name, none⟩

/-- The record as a line, with the time of its writing. -/
def render (stamp : String) (r : Record) : String :=
  "[" ++ stamp ++ " " ++ r.level.name ++ " " ++ r.file.getD "unknown" ++ ":" ++
    toString (r.line.getD 0) ++ "] " ++ r.text ++ "\n"

end Record

/-- Where a logger writes to. -/
inductive Sink where
  | standardError
  | file (path : String)
  deriving DecidableEq, Repr, Inhabited

/-- Which lines are logged, and where to. -/
structure Logger where
  filter : Filter
  sink : Sink
  deriving DecidableEq, Repr, Inhabited

/-- The logger, if it is set; the files; and what went to the standard error stream. -/
structure Logbook where
  logger : Option Logger
  tree : Tree
  errors : String
  deriving Repr, Inhabited

namespace Logbook

/-- A logbook over a tree, in which no logger has been put yet. -/
def new (tree : Tree) : Logbook := ⟨none, tree, ""⟩

/-- Writes a line to the standard error stream. -/
def say (b : Logbook) (text : String) : Logbook := { b with errors := b.errors ++ text ++ "\n" }

/-- Whether a record of a part and level would be written. -/
def isOpen (b : Logbook) (part : Part) (level : Level) : Bool :=
  b.logger.any (·.filter.isOpen part.target level)

/-- Writes to where the logger writes. -/
def emit (b : Logbook) (sink : Sink) (bytes : List UInt8) : Logbook :=
  match sink with
  | .standardError => { b with errors := b.errors ++ Text.Utf8.decodeLossy bytes }
  | .file path => { b with tree := (b.tree.appendFile path bytes).toOption.getD b.tree }

/-- Writes a record, if there is a logger and its filter admits it. -/
def record (stamp : String) (b : Logbook) (r : Record) : Logbook :=
  match b.logger with
  | none => b
  | some l =>
    if l.filter.admits r.target r.level r.text then
      b.emit l.sink (Text.Plain.strip (Text.Utf8.encode (r.render stamp)))
    else b

/-- Logs an entry. -/
def entry (stamp : String) (b : Logbook) (e : Entry) : Logbook := b.record stamp (.ofEntry e)

/-- Logs some entries, one after the other. -/
def entries (stamp : String) (b : Logbook) (es : List Entry) : Logbook := es.foldl (entry stamp) b

/-- The filter for a threshold and what the environment adds to it. -/
def filterFor (env : Environment) (t : Threshold) : Filter × List FilterFault :=
  match env.get? "RUST_LOG" with
  | some spec => (Filter.ofThreshold t).read spec
  | none => (Filter.ofThreshold t, [])

/-- Sets the logger, unless one is set. -/
def setLogger (env : Environment) (t : Threshold) (sink : Sink) (b : Logbook) : Logbook :=
  let (filter, faults) := filterFor env t
  let b := faults.foldl (fun b f => b.say ("warning: " ++ f.message ++ ", ignoring it")) b
  match b.logger with
  | none => { b with logger := some ⟨filter, sink⟩ }
  | some _ =>
    b.say ("failed to set logger: " ++
      "attempted to set a logger after the logging system was already initialized")

/-- Logs to the standard error stream. -/
def useErrors (env : Environment) (t : Threshold) (b : Logbook) : Logbook :=
  b.setLogger env t .standardError

/-- Logs to a file, if one is named and can be opened; it need not be there.  Logs to
the standard error stream otherwise. -/
def useFile (env : Environment) (target : Option (String × Threshold)) (b : Logbook) : Logbook :=
  match target with
  | none => b.useErrors env (.upTo .info)
  | some (path, t) =>
    match b.tree.appendFile path [] with
    | .ok tree => { b with tree := tree }.setLogger env t (.file path)
    | .error e =>
      (b.say ("failed to open log file " ++ path ++ ": " ++ e.message)).useErrors env (.upTo .info)

end Logbook

end ServiceSupervisor.Logging
