import ServiceSupervisor.CommandLine.Command

/-!
  CommandLine/Invocation.lean --- reading the arguments of the program.

  Options may stand before the command and behind it, a name only behind it, and
  after two dashes nothing is an option.  A value in the argument of its option is
  taken at once; one that follows is taken when the next argument shows that it is
  complete, so it may turn out to be wrong later.
-/

set_option autoImplicit false

namespace ServiceSupervisor.CommandLine

/-- What can be helped with. -/
inductive Topic where
  | program
  | command (c : Command)
  | help
  deriving DecidableEq, Repr, Inhabited

/-- Why the arguments lead to no command. -/
inductive Refusal where
  /-- help is asked for -/
  | help (topic : Topic)
  /-- the version is asked for -/
  | version
  | unknownArgument (text : String)
  | unknownCommand (text : String)
  /-- an option has no value, or an empty one -/
  | noValue
  | repeated
  /-- an option has a value that takes none -/
  | unwantedValue (option : String)
  deriving DecidableEq, Repr, Inhabited

/-- What the program is asked to do. -/
structure Invocation where
  command : Option Command
  name : Option String
  config : Option String
  deriving DecidableEq, Repr, Inhabited

/-- How an argument looks. -/
inductive Shape where
  /-- two dashes -/
  | escape
  /-- a long option, and what follows an equals sign -/
  | long (name : String) (value : Option String)
  /-- short options -/
  | short (letters : List Char)
  | word
  deriving DecidableEq, Repr, Inhabited

/-- A long option with or without a value. -/
def longShape (text : List Char) : Shape :=
  match text.dropWhile (· ≠ '=') with
  | _ :: value => .long (String.ofList (text.takeWhile (· ≠ '='))) (some (String.ofList value))
  | [] => .long (String.ofList text) none

/-- How an argument is read, before it is known what it stands for. -/
def shape (argument : String) : Shape :=
  match argument.toList with
  | ['-', '-'] => .escape
  | '-' :: '-' :: text => longShape text
  | ['-'] => .word
  | '-' :: letters => .short letters
  | _ => .word

/-- What the arguments of one level, before the command or behind it, have told. -/
structure Gathered where
  config : Option String
  /-- an option whose value is not taken yet: it may not even have come -/
  pending : Option (Option String)
  name : Option String
  /-- whether two dashes have come -/
  plain : Bool
  deriving DecidableEq, Repr, Inhabited

namespace Gathered

/-- What is gathered before the first argument. -/
def empty : Gathered := ⟨none, none, none, false⟩

/-- Takes the value of the option.  It may come once, and not empty. -/
def takeValue (l : Gathered) (value : String) : Except Refusal Gathered :=
  if l.config.isSome then .error .repeated
  else if value = "" then .error .noValue
  else .ok { l with config := some value }

/-- Takes the value that is pending. -/
def settle (l : Gathered) : Except Refusal Gathered :=
  match l.pending with
  | none => .ok l
  | some none => .error .noValue
  | some (some value) => takeValue { l with pending := none } value

/-- The option, with its value if that is in the same argument. -/
def option (l : Gathered) (value : Option String) : Except Refusal Gathered := do
  let l ← l.settle
  match value with
  | some v => l.takeValue v
  | none => pure { l with pending := some none }

/-- Stops for something that is asked for. -/
def interrupt (l : Gathered) (r : Refusal) : Except Refusal Gathered := do
  let _ ← l.settle
  throw r

/-- Whether the next argument is the value of an option, unless it looks like one. -/
def isAwaiting (l : Gathered) : Bool := l.pending == some none

end Gathered

/-- Whether a level is that before the command, where the version can be asked for. -/
inductive Standing where
  | top
  | under (c : Command)
  deriving DecidableEq, Repr, Inhabited

/-- What help is given about when it is asked for there. -/
def Standing.topic : Standing → Topic
  | top => .program
  | under c => .command c

/-- A long option. -/
def long (s : Standing) (l : Gathered) (name : String) (value : Option String) :
    Except Refusal Gathered :=
  if name = "config" then l.option value
  else if name = "help" ∨ (name = "version" ∧ s = .top) then
    match value with
    | some _ => .error (.unwantedValue name)
    | none => l.interrupt (if name = "help" then .help s.topic else .version)
  else .error (.unknownArgument ("--" ++ name))

/-- Short options in one argument.  The first decides: it takes the rest for its
value, or stops. -/
def short (s : Standing) (l : Gathered) : List Char → Except Refusal Gathered
  | 'c' :: [] => l.option none
  | 'c' :: '=' :: value => l.option (some (String.ofList value))
  | 'c' :: value => l.option (some (String.ofList value))
  | 'h' :: _ => l.interrupt (.help s.topic)
  | c :: _ =>
    if c = 'V' ∧ s = .top then l.interrupt .version
    else .error (.unknownArgument ("-" ++ String.singleton c))
  | [] => .ok l

/-- What a word is taken for that is not the value of an option. -/
def word (s : Standing) (l : Gathered) (argument : String) : Except Refusal Gathered :=
  match s with
  | .top =>
    if l.plain ∧ ((Command.ofName? argument).isSome ∨ argument = "help") then
      .error (.unknownArgument argument)
    else .error (.unknownCommand argument)
  | .under _ =>
    match l.name with
    | some _ => .error (.unknownArgument argument)
    | none => do
      let l ← l.settle
      pure { l with name := some argument }

/-- Reads one argument that is not the command. -/
def argument (s : Standing) (l : Gathered) (text : String) : Except Refusal Gathered :=
  if l.plain then word s l text
  else
    match shape text with
    | .escape => .ok { l with plain := true }
    | .long name value => long s l name value
    | .short letters => short s l letters
    | .word => if l.isAwaiting then .ok { l with pending := some (some text) } else word s l text

/-- Reads the arguments behind the command. -/
def behind (c : Command) (arguments : List String) : Except Refusal Gathered := do
  let l ← arguments.foldlM (argument (.under c)) .empty
  l.settle

/-- What a word names that can be helped with. -/
def Topic.ofName? (name : String) : Option Topic :=
  if name = "help" then some .help else (Command.ofName? name).map .command

/-- Help with what is named.  No command has commands of its own, so nothing may stand
behind it. -/
def helpTopic : List String → Refusal
  | [] => .help .program
  | name :: rest =>
    match Topic.ofName? name, rest with
    | some topic, [] => .help topic
    | some _, next :: _ => .unknownCommand next
    | none, _ => .unknownCommand name

/-- Reads the arguments up to the command and behind it.  The option behind it counts
more than that before it. -/
def readFrom (l : Gathered) : List String → Except Refusal Invocation
  | [] => do
    let l ← l.settle
    pure ⟨none, none, l.config⟩
  | text :: rest =>
    if l.plain ∨ l.isAwaiting then do readFrom (← argument .top l text) rest
    else if text = "help" then .error (helpTopic rest)
    else
      match Command.ofName? text with
      | some c => do
        let inner ← behind c rest
        let l ← l.settle
        pure ⟨some c, inner.name, inner.config <|> l.config⟩
      | none => do readFrom (← argument .top l text) rest

/-- Reads the arguments of the program. -/
def read (arguments : List String) : Except Refusal Invocation := readFrom .empty arguments

end ServiceSupervisor.CommandLine
