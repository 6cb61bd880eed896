import ServiceSupervisor.Toml.Table

/-!
  Toml/Document.lean --- the table that a whole document describes.
-/

set_option autoImplicit false

namespace ServiceSupervisor.Toml

namespace Document

/-- How many tables a key may lead through. -/
def maxPath : Nat := 79

/-- A key split into the path and its last part. -/
def splitKey (parts : List Raw) : Except Fault (List String × String) := do
  let keys ← parts.mapM Scalar.keyOfRaw
  match keys.reverse with
  | [] => .error .badKey
  | last :: path => if path.length > maxPath then .error .keyTooLong else .ok (path.reverse, last)

mutual

/-- What a written value says. -/
def node : Written → Except Fault Node
  | .scalar raw => do
    let s ← Scalar.ofRaw raw
    pure (.scalar s)
  | .array items => do
    let items ← nodes items
    pure (.array items)
  | .table lines => do
    let entries ← fill .inline lines []
    pure (.table .inline entries)

/-- What the items of an array mean, one after the other. -/
def nodes : List Written → Except Fault (List Node)
  | [] => pure []
  | w :: ws => do
    let n ← node w
    let ns ← nodes ws
    pure (n :: ns)

/-- Gives the keys of the lines their values, one after the other. -/
def fill (origin : Origin) : List (List Raw × Written) → Entries → Except Fault Entries
  | [], es => pure es
  | (key, w) :: lines, es => do
    let (path, last) ← splitKey key
    let n ← node w
    let es ← es.assign path last n origin
    fill origin lines es

end

/-- Adds a section to the table of the document. -/
def addSection (es : Entries) (s : Section) : Except Fault Entries :=
  match s.header with
  | none => fill .header s.lines es
  | some (.table, key) => do
    let (path, last) ← splitKey key
    es.openTable path last (fill .header s.lines)
  | some (.element, key) => do
    let (path, last) ← splitKey key
    let element ← fill .header s.lines []
    es.addElement path last element

/-- The table that a text describes. -/
def parse (text : String) : Except Fault Entries := do
  let sections ← Syntax.read text
  sections.foldlM addSection []

/-- The table that a text describes, or the words for why it describes none. -/
def read (text : String) : Except String Entries := (parse text).mapError Fault.message

end Document

end ServiceSupervisor.Toml
