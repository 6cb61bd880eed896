import ServiceSupervisor.Journal
import ServiceSupervisor.Text.Blank
import ServiceSupervisor.Text.Split

/-!
  Logging/Filter.lean --- which records are written.

  A directive sets a threshold for the targets that begin with a name, or for all.
  The directive with the longest name that fits a target decides.  Directives are
  given as a list with commas; a text behind a slash must be found in a record.
-/

set_option autoImplicit false

namespace ServiceSupervisor.Logging

/-- The least urgent level that is written, or that none is. -/
inductive Threshold where
  | off
  | upTo (level : Level)
  deriving DecidableEq, Repr, Inhabited

namespace Threshold

/-- How many levels are let through. -/
def rank : Threshold → Nat
  | off => 0
  | upTo level => level.rank

/-- Whether lines of a level are let through. -/
def admits (t : Threshold) (l : Level) : Bool := l.rank ≤ t.rank

/-- The threshold that a name stands for, in small or capital letters. -/
def ofName? (name : String) : Option Threshold :=
  if name.toUpper = "OFF" then some off
  else (Level.all.find? fun l => l.name = name.toUpper).map upTo

end Threshold

/-- A threshold for the targets that begin with a name, or for all. -/
structure Directive where
  target : Option String
  threshold : Threshold
  deriving DecidableEq, Repr, Inhabited

namespace Directive

/-- Whether the directive is about a target. -/
def fits (d : Directive) (target : String) : Bool :=
  match d.target with
  | some name => name.isPrefixOf target
  | none => true

/-- How much of a target the directive names, in bytes. -/
def weight (d : Directive) : Nat := (d.target.map String.utf8ByteSize).getD 0

end Directive

/-- The directives, each for a name of its own, and the text that records must hold. -/
structure Filter where
  directives : List Directive
  needle : Option String
  deriving DecidableEq, Repr, Inhabited

/-- What is wrong with a list of directives. -/
inductive FilterFault where
  | manySlashes (spec : String)
  | unreadable (part : String)
  deriving DecidableEq, Repr, Inhabited

/-- What is said about a filter that cannot be read. -/
def FilterFault.message : FilterFault → String
  | manySlashes spec => "invalid logging spec '" ++ spec ++ "' (too many '/'s)"
  | unreadable part => "invalid logging spec '" ++ part ++ "'"

namespace Filter

/-- The filter with one threshold for all targets. -/
def ofThreshold (t : Threshold) : Filter := ⟨[⟨none, t⟩], none⟩

/-- Adds a directive; one for the same name is replaced where it stands. -/
def insert (d : Directive) : List Directive → List Directive
  | [] => [d]
  | e :: rest => if e.target = d.target then d :: rest else e :: insert d rest

/-- The directive that decides about a target: of those with the longest name that
fits, the last. -/
def deciding? (f : Filter) (target : String) : Option Directive :=
  (f.directives.filter (·.fits target)).foldl (fun best d =>
    match best with
    | none => some d
    | some b => if b.weight ≤ d.weight then some d else some b) none

/-- Whether records of a level may be written for a target. -/
def isOpen (f : Filter) (target : String) (level : Level) : Bool :=
  match f.deciding? target with
  | some d => d.threshold.admits level
  | none => false

/-- Whether a text can be found in another. -/
def occursIn (needle text : List Char) : Bool :=
  needle.isPrefixOf text ||
    match text with
    | [] => false
    | _ :: rest => occursIn needle rest

/-- Whether a line is let through: by its target and level, and by its text. -/
def admits (f : Filter) (target : String) (level : Level) (text : String) : Bool :=
  f.isOpen target level && (f.needle.all fun n => occursIn n.toList text.toList)

/-- Reads one directive: a level, a name, or a name and a level. -/
def directive (part : List Char) : Except FilterFault Directive :=
  match Text.split '=' part with
  | [one] =>
    match Threshold.ofName? (String.ofList one) with
    | some t => .ok ⟨none, t⟩
    | none => .ok ⟨some (String.ofList one), .upTo .trace⟩
  | [name, level] =>
    let level := Text.trim (String.ofList level)
    if level = "" then .ok ⟨some (String.ofList name), .upTo .trace⟩
    else
      match Threshold.ofName? level with
      | some t => .ok ⟨some (String.ofList name), t⟩
      | none => .error (.unreadable level)
  | _ => .error (.unreadable (String.ofList part))

/-- Takes one directive in, or keeps what is wrong with it. -/
def take (acc : List Directive × List FilterFault) (part : List Char) :
    List Directive × List FilterFault :=
  match directive part with
  | .ok d => (insert d acc.1, acc.2)
  | .error e => (acc.1, acc.2 ++ [e])

/-- The filter with the directives of a text added. -/
def read (f : Filter) (spec : String) : Filter × List FilterFault :=
  match Text.split '/' spec.toList with
  | _ :: _ :: _ :: _ => ({ f with needle := none }, [.manySlashes spec])
  | parts =>
    let list := (Text.split ',' (parts.headD [])).map Text.trimChars
    let (directives, faults) := (list.filter (· ≠ [])).foldl take (f.directives, [])
    (⟨directives, parts[1]?.map String.ofList⟩, faults)

end Filter

end ServiceSupervisor.Logging
