import ServiceSupervisor.Toml.Fault

/-!
  Toml/Syntax.lean --- the written form of a TOML document, and reading it.

  A document is split into sections; a section has a header, the first one none,
  and lines that give keys their values.  Here brackets, commas, line ends and
  quotation marks are settled.  What stands between the marks, and whether keys
  fit together, is looked at afterwards, so a document that is cut wrongly is
  refused before one whose parts mean nothing.
-/

set_option autoImplicit false

namespace ServiceSupervisor.Toml

/-- How a key part or a value is marked off. -/
inductive Quoting where
  | bare
  | basic
  | literal
  | multiBasic
  | multiLiteral
  deriving DecidableEq, Repr, Inhabited

/-- A key part, or a value other than an array or a table, as written between its
marks.  `closed` tells whether the closing mark is there. -/
structure Raw where
  quoting : Quoting
  content : List Char
  closed : Bool := true
  deriving DecidableEq, Repr, Inhabited

/-- A value as written. -/
inductive Written where
  | scalar (raw : Raw)
  | array (items : List Written)
  | table (lines : List (List Raw × Written))
  deriving Repr, Inhabited

/-- What a header opens. -/
inductive Opening where
  | table
  | element
  deriving DecidableEq, Repr, Inhabited

/-- A header, if any, and the lines below it. -/
structure Section where
  header : Option (Opening × List Raw)
  lines : List (List Raw × Written)
  deriving Repr, Inhabited

namespace Syntax

/-- A reader takes a part off the front of the text. -/
abbrev Step (α : Type) : Type := List Char → Except Fault (α × List Char)

/-! ## Blanks, comments and line ends -/

/-- A space or a tab. -/
def isBlank (c : Char) : Bool := c == ' ' || c == '\t'

/-- The control characters other than the tab. -/
def isControl (c : Char) : Bool := (c.toNat < 0x20 && c != '\t') || c == '\x7f'

/-- What follows the blanks. -/
def skipBlanks (cs : List Char) : List Char := cs.dropWhile isBlank

/-- Drops a comment, up to the line end. -/
def skipComment : List Char → Except Fault (List Char)
  | '#' :: cs =>
    let rest := cs.dropWhile fun c => !isControl c
    match rest with
    | [] => .ok []
    | '\n' :: _ => .ok rest
    | '\r' :: '\n' :: _ => .ok rest
    | _ => .error .controlCharacter
  | cs => .ok cs

/-- Takes one line end off the front, if there is one. -/
def lineEnd? : List Char → Option (List Char)
  | '\n' :: cs => some cs
  | '\r' :: '\n' :: cs => some cs
  | _ => none

/-- Ends a line: blanks, perhaps a comment, then a line end or the end of the text. -/
def endLine (cs : List Char) : Except Fault (List Char) := do
  let cs ← skipComment (skipBlanks cs)
  match cs with
  | [] => .ok []
  | _ =>
    match lineEnd? cs with
    | some rest => .ok rest
    | none => .error .lineEndExpected

/-- Drops blanks, comments and line ends, as many as there are. -/
def skipGaps : Nat → List Char → Except Fault (List Char)
  | 0, cs => .ok cs
  | fuel + 1, cs => do
    let cs' ← skipComment (skipBlanks cs)
    match lineEnd? cs' with
    | some rest => skipGaps fuel rest
    | none => .ok cs'

/-- Drops every gap at the front. -/
def gaps (cs : List Char) : Except Fault (List Char) := skipGaps (cs.length + 1) cs

/-! ## Quoted text -/

/-- Text up to a closing mark on the same line. -/
def upTo (mark : Char) (escapes : Bool) : List Char → Raw → Raw × List Char
  | [], raw => ({ raw with closed := false }, [])
  | '\\' :: c :: cs, raw =>
    if escapes ∧ c ≠ '\n' then upTo mark escapes cs { raw with content := c :: '\\' :: raw.content }
    else upTo mark escapes (c :: cs) { raw with content := '\\' :: raw.content }
  | c :: cs, raw =>
    if c = mark then (raw, cs)
    else if c = '\n' then ({ raw with closed := false }, c :: cs)
    else upTo mark escapes cs { raw with content := c :: raw.content }
termination_by cs => cs.length

/-- Text up to three closing marks, with at most two more of them in front. -/
def upToThree (mark : Char) (escapes : Bool) : List Char → Raw → Raw × List Char
  | [], raw => ({ raw with closed := false }, [])
  | '\\' :: c :: cs, raw =>
    if escapes then upToThree mark escapes cs { raw with content := c :: '\\' :: raw.content }
    else upToThree mark escapes (c :: cs) { raw with content := '\\' :: raw.content }
  | c :: cs, raw =>
    if c = mark ∧ cs.take 2 = [mark, mark] then
      let extra := ((cs.drop 2).takeWhile (· == mark)).take 2
      ({ raw with content := extra ++ raw.content }, cs.drop (2 + extra.length))
    else upToThree mark escapes cs { raw with content := c :: raw.content }
termination_by cs => cs.length

/-- Puts the content, gathered back to front, the right way round. -/
def facing (r : Raw × List Char) : Raw × List Char :=
  ({ r.1 with content := r.1.content.reverse }, r.2)

/-- Quoted text at the front, if a quotation mark stands there. -/
def quoted? : List Char → Option (Raw × List Char)
  | '"' :: '"' :: '"' :: cs => some (facing (upToThree '"' true cs ⟨.multiBasic, [], true⟩))
  | '\'' :: '\'' :: '\'' :: cs => some (facing (upToThree '\'' false cs ⟨.multiLiteral, [], true⟩))
  | '"' :: cs => some (facing (upTo '"' true cs ⟨.basic, [], true⟩))
  | '\'' :: cs => some (facing (upTo '\'' false cs ⟨.literal, [], true⟩))
  | _ => none

/-! ## Keys -/

/-- The characters that end bare text. -/
def endsBare (c : Char) : Bool :=
  isBlank c || c == '\n' || c == '\r' || c == ',' || c == '[' || c == ']' || c == '\x7b' ||
    c == '\x7d' || c == '=' || c == '#' || c == '"' || c == '\''

/-- One part of a key. -/
def keyPart (cs : List Char) : Except Fault (Raw × List Char) :=
  match quoted? cs with
  | some r => .ok r
  | none =>
    let content := cs.takeWhile fun c => !endsBare c && c != '.'
    if content.isEmpty then .error .keyExpected
    else .ok (⟨.bare, content, true⟩, cs.drop content.length)

/-- The parts of a key, with dots between them; blanks around it are dropped. -/
def keyParts : Nat → Step (List Raw)
  | 0, _ => .error .keyExpected
  | fuel + 1, cs => do
    let (part, cs) ← keyPart (skipBlanks cs)
    match skipBlanks cs with
    | '.' :: cs => do
      let (parts, cs) ← keyParts fuel cs
      pure (part :: parts, cs)
    | cs => pure ([part], cs)

/-- The parts of a key. -/
def key : Step (List Raw) := fun cs => keyParts (cs.length + 1) cs

/-! ## Values -/

/-- Whether the text has the shape of a date: digits with dashes after four and two. -/
def isDateShape (cs : List Char) : Bool :=
  cs.length == 10 &&
    (cs.zipIdx.all fun (c, i) => if i == 4 || i == 7 then c == '-' else c.isDigit)

/-- A value that is neither quoted nor bracketed.  A date may be followed by one
space and a time. -/
def bareValue : Step Raw := fun cs =>
  let content := cs.takeWhile fun c => !endsBare c
  let rest := cs.drop content.length
  if content.isEmpty then .error .valueExpected
  else
    match isDateShape content, rest with
    | true, ' ' :: d :: rest' =>
      if d.isDigit then
        let time := (d :: rest').takeWhile fun c => !endsBare c
        .ok (⟨.bare, content ++ ' ' :: time, true⟩, (d :: rest').drop time.length)
      else .ok (⟨.bare, content, true⟩, rest)
    | _, _ => .ok (⟨.bare, content, true⟩, rest)

mutual

/-- A value; `depth` brackets may still be opened. -/
def value : Nat → Nat → Step Written
  | 0, _, _ => .error .valueExpected
  | fuel + 1, depth, cs =>
    match cs with
    | '[' :: cs =>
      match depth with
      | 0 => .error .tooDeep
      | depth + 1 => do
        let (items, cs) ← arrayItems fuel depth cs
        pure (.array items, cs)
    | '\x7b' :: cs =>
      match depth with
      | 0 => .error .tooDeep
      | depth + 1 => do
        let (lines, cs) ← tableLines fuel depth cs
        pure (.table lines, cs)
    | cs =>
      match quoted? cs with
      | some (raw, cs) => pure (.scalar raw, cs)
      | none => do
        let (raw, cs) ← bareValue cs
        pure (.scalar raw, cs)

/-- The items of an array, up to the closing bracket; a comma may stand last. -/
def arrayItems : Nat → Nat → Step (List Written)
  | 0, _, _ => .error .unclosed
  | fuel + 1, depth, cs => do
    match ← gaps cs with
    | ']' :: cs => pure ([], cs)
    | [] => .error .unclosed
    | cs => do
      let (item, cs) ← value fuel depth cs
      match ← gaps cs with
      | ',' :: cs => do
        let (items, cs) ← arrayItems fuel depth cs
        pure (item :: items, cs)
      | ']' :: cs => pure ([item], cs)
      | _ => .error .unclosed

/-- The keys and values of an inline table, up to the closing brace; a comma may
stand last. -/
def tableLines : Nat → Nat → Step (List (List Raw × Written))
  | 0, _, _ => .error .unclosed
  | fuel + 1, depth, cs => do
    match ← gaps cs with
    | '\x7d' :: cs => pure ([], cs)
    | [] => .error .unclosed
    | cs => do
      let (k, cs) ← key cs
      match ← gaps cs with
      | '=' :: cs => do
        let cs ← gaps cs
        let (v, cs) ← value fuel depth cs
        match ← gaps cs with
        | ',' :: cs => do
          let (rest, cs) ← tableLines fuel depth cs
          pure ((k, v) :: rest, cs)
        | '\x7d' :: cs => pure ([(k, v)], cs)
        | _ => .error .unclosed
      | _ => .error .equalsExpected

end

/-- How deeply arrays and inline tables may stand in each other. -/
def maxDepth : Nat := 80

/-! ## Lines and sections -/

/-- A key and its value, up to the end of the line. -/
def keyValue : Step (List Raw × Written) := fun cs => do
  let (k, cs) ← key cs
  match cs with
  | '=' :: cs => do
    let cs := skipBlanks cs
    let (v, cs) ← value (2 * cs.length + 2) maxDepth cs
    let cs ← endLine cs
    pure ((k, v), cs)
  | _ => .error .equalsExpected

/-- A header whose first bracket is gone, up to the end of the line. -/
def header : Step (Opening × List Raw)
  | '[' :: cs => do
    let (k, cs) ← key cs
    match cs with
    | ']' :: ']' :: cs => do
      let cs ← endLine cs
      pure ((.element, k), cs)
    | _ => .error .unclosed
  | cs => do
    let (k, cs) ← key cs
    match cs with
    | ']' :: cs => do
      let cs ← endLine cs
      pure ((.table, k), cs)
    | _ => .error .unclosed

/-- The sections of a text, given the header and the lines of the one under way. -/
def sections : Nat → Option (Opening × List Raw) → List (List Raw × Written) →
    List Char → Except Fault (List Section)
  | 0, _, _, _ => .error .lineEndExpected
  | fuel + 1, open', lines, cs => do
    match ← gaps cs with
    | [] => pure [⟨open', lines.reverse⟩]
    | '[' :: cs => do
      let (h, cs) ← header cs
      let rest ← sections fuel (some h) [] cs
      pure (⟨open', lines.reverse⟩ :: rest)
    | cs => do
      let (line, cs) ← keyValue cs
      sections fuel open' (line :: lines) cs

/-- The sections of a document.  One byte-order mark may stand in front. -/
def read (text : String) : Except Fault (List Section) :=
  let cs := match text.toList with
    | '\uFEFF' :: cs => cs
    | cs => cs
  sections (cs.length + 1) none [] cs

end Syntax

end ServiceSupervisor.Toml
