import ServiceSupervisor.Settings.Error

/-!
  Settings/Source.lean --- stored values, and where they are read from.

  A source answers reads one by one and may change what it remembers with each.
  A stored value carries its type; one of a type the supervisor never accepts is
  known by the name of that type alone.
-/

set_option autoImplicit false

namespace ServiceSupervisor.Settings

/-- A stored value, free of how the store encodes it. -/
inductive Value where
  | integer (n : Nat)
  | text (s : String)
  | textList (xs : List String)
  | other (type : String)
  deriving DecidableEq, Repr, Inhabited

/-- What a message calls the type of the value. -/
def Value.typeName : Value → String
  | integer _ => "integer"
  | text _ => "string"
  | textList _ => "string list"
  | other type => type

/-- A computation that reads from a source in state `σ` and may fail. -/
abbrev Reading (σ : Type) : Type → Type := ExceptT Error (StateM σ)

/-- Where settings are read from. -/
structure Source (σ : Type) where
  /-- how messages name the source -/
  location : String
  /-- the value under a name, if there is one; only a failed access is an error -/
  read : String → Reading σ (Option Value)

/-! ## Values in memory -/

/-- Values held in memory, names whose reading is refused, and the names read so
far. -/
structure Memory where
  values : List (String × Value)
  refusals : List (String × String)
  asked : List String
  deriving DecidableEq, Repr, Inhabited

/-- The value held under a name. -/
def Memory.get? (m : Memory) (name : String) : Option Value :=
  (m.values.find? fun e => e.1 = name).map (·.2)

/-- The source that answers from memory. -/
def memory : Source Memory where
  location := "memory"
  read name := fun m =>
    let m' := { m with asked := m.asked ++ [name] }
    match m.refusals.find? fun e => e.1 = name with
    | some (_, reason) => (.error (.unreadable "memory" (.refused reason)), m')
    | none => (.ok (m.get? name), m')

end ServiceSupervisor.Settings
