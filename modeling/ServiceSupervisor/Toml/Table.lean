import ServiceSupervisor.Toml.Scalar

/-!
  Toml/Table.lean --- tables, and the rules by which keys and headers fill them.

  A table may be written in pieces, but only in some ways: a header opens a table
  that is new, or one that only longer headers have mentioned; a dotted key
  extends a table that dotted keys made; what stands in braces or brackets is
  complete.  So each table remembers how it came to be.
-/

set_option autoImplicit false

namespace ServiceSupervisor.Toml

/-- How a table came to be. -/
inductive Origin where
  /-- opened by a header, or the whole document -/
  | header
  /-- mentioned by a longer header -/
  | implied
  /-- mentioned by a dotted key -/
  | dotted
  /-- written in braces -/
  | inline
  deriving DecidableEq, Repr, Inhabited

/-- What stands under a key. -/
inductive Node where
  | scalar (s : Scalar)
  /-- an array in brackets -/
  | array (items : List Node)
  | table (origin : Origin) (entries : List (String × Node))
  /-- an array whose elements headers open one by one -/
  | tables (elements : List (List (String × Node)))
  deriving Repr, Inhabited

/-- The entries of a table, each key once. -/
abbrev Entries : Type := List (String × Node)

namespace Entries

/-- What an entry holds. -/
def get? (es : Entries) (key : String) : Option Node := (es.find? fun e => e.1 = key).map (·.2)

/-- Puts an entry at the end, in place of the one of that name. -/
def put (es : Entries) (key : String) (node : Node) : Entries :=
  es.filter (fun e => e.1 ≠ key) ++ [(key, node)]

/-- Changes the entries of the table that a path leads to.  Tables missing on the
way are made; an array of tables stands for its last element. -/
def within (made : Origin) (act : Origin → Entries → Except Fault Entries) :
    List String → Origin → Entries → Except Fault Entries
  | [], origin, es => act origin es
  | key :: path, _, es =>
    match es.get? key with
    | none => do
      let inner ← within made act path made []
      pure (es.put key (.table made inner))
    | some (.table origin inner) =>
      if origin = .inline ∨ (made = .dotted ∧ origin = .header) then .error .duplicate
      else do
        let inner ← within made act path origin inner
        pure (es.put key (.table origin inner))
    | some (.tables elements) =>
      match elements.reverse with
      | [] => .error .notATable
      | last :: earlier => do
        let inner ← within made act path .header last
        pure (es.put key (.tables (earlier.reverse ++ [inner])))
    | some (.array _) => .error .notATable
    | some (.scalar _) => .error .notATable

/-- Gives a key its value, which must be its first.  The table it stands in is
made by dotted keys if and only if the key is dotted. -/
def assign (es : Entries) (path : List String) (key : String) (node : Node) (origin : Origin) :
    Except Fault Entries :=
  within .dotted
    (fun origin es =>
      if (origin = .dotted) ↔ path = [] then .error .duplicate
      else
        match es.get? key with
        | none => .ok (es.put key node)
        | some _ => .error .duplicate)
    path origin es

/-- Opens the table of a header and fills it. -/
def openTable (es : Entries) (path : List String) (key : String)
    (fill : Entries → Except Fault Entries) : Except Fault Entries :=
  within .implied
    (fun _ es =>
      match es.get? key with
      | none => do pure (es.put key (.table .header (← fill [])))
      | some (.table .implied inner) => do pure (es.put key (.table .header (← fill inner)))
      | some _ => .error .duplicate)
    path .header es

/-- Adds an element to an array of tables, or begins one. -/
def addElement (es : Entries) (path : List String) (key : String) (element : Entries) :
    Except Fault Entries :=
  within .implied
    (fun _ es =>
      match es.get? key with
      | none => .ok (es.put key (.tables [element]))
      | some (.tables elements) => .ok (es.put key (.tables (elements ++ [element])))
      | some _ => .error .duplicate)
    path .header es

end Entries

end ServiceSupervisor.Toml
