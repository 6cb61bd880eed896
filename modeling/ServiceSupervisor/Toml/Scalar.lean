import ServiceSupervisor.Toml.Syntax

/-!
  Toml/Scalar.lean --- what a value or key part says that is written without brackets.

  Strings lose their escapes; numbers are checked against their grammar and their
  range; dates and times against the calendar.  Of floating-point numbers,
  booleans, dates and times only the kind is kept.
-/

set_option autoImplicit false

namespace ServiceSupervisor.Toml

/-- What a scalar says. -/
inductive Scalar where
  | string (s : String)
  | integer (n : Int)
  | float
  | boolean
  | datetime
  deriving DecidableEq, Repr, Inhabited

namespace Scalar

/-! ## Strings -/

/-- The value of a hexadecimal digit; zero for any other character. -/
def hexValue (c : Char) : Nat :=
  if c.isDigit then c.toNat - 0x30
  else if 'a' ≤ c ∧ c ≤ 'f' then c.toNat - 0x57
  else if 'A' ≤ c ∧ c ≤ 'F' then c.toNat - 0x37
  else 0

/-- A hexadecimal digit. -/
def isHexDigit (c : Char) : Bool :=
  c.isDigit || ('a' ≤ c && c ≤ 'f') || ('A' ≤ c && c ≤ 'F')

/-- The number that digits write in a base. -/
def numberIn (base : Nat) (ds : List Char) : Nat :=
  ds.foldl (fun n d => base * n + hexValue d) 0

/-- The character whose number the next `digits` hexadecimal digits write. -/
def numbered (digits : Nat) (cs : List Char) : Option (List Char × List Char) :=
  let ds := cs.take digits
  if ds.length = digits ∧ ds.all isHexDigit ∧ (numberIn 16 ds).isValidChar then
    some ([Char.ofNat (numberIn 16 ds)], cs.drop digits)
  else none

theorem length_numbered_le {digits : Nat} {cs out rest : List Char}
    (h : numbered digits cs = some (out, rest)) : rest.length ≤ cs.length := by
  simp only [numbered] at h
  split at h
  · simp only [Option.some.injEq, Prod.mk.injEq] at h
    rw [← h.2, List.length_drop]
    exact Nat.sub_le _ _
  · exact nomatch h

/-- Drops blanks and line ends. -/
def skipBreaks : List Char → List Char
  | '\r' :: '\n' :: cs => skipBreaks cs
  | c :: cs => if Syntax.isBlank c || c == '\n' then skipBreaks cs else c :: cs
  | [] => []

theorem length_skipBreaks_le (cs : List Char) : (skipBreaks cs).length ≤ cs.length := by
  fun_induction skipBreaks cs <;> simp_all <;> omega

/-- What an escape stands for, and the text after it; the backslash is gone
already.  Where line ends may stand, one may be escaped together with the gaps
around it. -/
def escape (multiLine : Bool) : List Char → Option (List Char × List Char)
  | 'b' :: cs => some (['\x08'], cs)
  | 't' :: cs => some (['\t'], cs)
  | 'n' :: cs => some (['\n'], cs)
  | 'f' :: cs => some (['\x0c'], cs)
  | 'r' :: cs => some (['\r'], cs)
  | 'e' :: cs => some (['\x1b'], cs)
  | '"' :: cs => some (['"'], cs)
  | '\\' :: cs => some (['\\'], cs)
  | 'x' :: cs => numbered 2 cs
  | 'u' :: cs => numbered 4 cs
  | 'U' :: cs => numbered 8 cs
  | cs =>
    if multiLine ∧ (Syntax.lineEnd? (Syntax.skipBlanks cs)).isSome then some ([], skipBreaks cs)
    else none

theorem length_escape_le {multiLine : Bool} {cs out rest : List Char}
    (h : escape multiLine cs = some (out, rest)) : rest.length ≤ cs.length := by
  have letter : ∀ {c : Char} {one rest' : List Char},
      some (one, rest') = some (out, rest) → rest.length ≤ (c :: rest').length := by
    intro c one rest' h
    simp only [Option.some.injEq, Prod.mk.injEq] at h
    rw [← h.2]
    exact Nat.le_succ _
  unfold escape at h
  split at h
  · exact letter h
  · exact letter h
  · exact letter h
  · exact letter h
  · exact letter h
  · exact letter h
  · exact letter h
  · exact letter h
  · exact Nat.le_succ_of_le (length_numbered_le h)
  · exact Nat.le_succ_of_le (length_numbered_le h)
  · exact Nat.le_succ_of_le (length_numbered_le h)
  · split at h
    · simp only [Option.some.injEq, Prod.mk.injEq] at h
      rw [← h.2]
      exact length_skipBreaks_le _
    · exact nomatch h

/-- A character that stands for itself: no control character, except line ends
where they may stand. -/
def plain (multiLine : Bool) : List Char → Option (List Char × List Char)
  | '\r' :: '\n' :: cs => if multiLine then some (['\r', '\n'], cs) else none
  | c :: cs =>
    if Syntax.isControl c ∧ ¬(multiLine ∧ c = '\n') then none else some ([c], cs)
  | [] => none

theorem length_plain_lt {multiLine : Bool} {cs out rest : List Char}
    (h : plain multiLine cs = some (out, rest)) : rest.length < cs.length := by
  unfold plain at h
  split at h
  · split at h
    · simp only [Option.some.injEq, Prod.mk.injEq] at h
      simp only [← h.2, List.length_cons]
      omega
    · exact nomatch h
  · split at h
    · exact nomatch h
    · simp only [Option.some.injEq, Prod.mk.injEq] at h
      simp [← h.2]
  · exact nomatch h

/-- The text that string content says; a backslash escapes only where `escapes`. -/
def unescape (escapes multiLine : Bool) (cs : List Char) : Option (List Char) :=
  match cs with
  | [] => some []
  | c :: cs =>
    if escapes ∧ c = '\\' then
      match h : escape multiLine cs with
      | some (out, rest) =>
        have := length_escape_le h
        (unescape escapes multiLine rest).map (out ++ ·)
      | none => none
    else
      match h : plain multiLine (c :: cs) with
      | some (out, rest) =>
        have := length_plain_lt h
        (unescape escapes multiLine rest).map (out ++ ·)
      | none => none
termination_by cs.length
decreasing_by
  · simp only [List.length_cons]; omega
  · simpa using this

/-- The line end right after the opening marks of a multi-line string is no part
of it. -/
def withoutFirstLineEnd (cs : List Char) : List Char := (Syntax.lineEnd? cs).getD cs

/-- The text of a quoted part. -/
def text? (raw : Raw) : Option String :=
  if raw.closed then
    (match raw.quoting with
      | .basic => unescape true false raw.content
      | .literal => unescape false false raw.content
      | .multiBasic => unescape true true (withoutFirstLineEnd raw.content)
      | .multiLiteral => unescape false true (withoutFirstLineEnd raw.content)
      | .bare => none).map String.ofList
  else none

/-! ## Numbers -/

/-- Digits with single underscores between them, without the underscores. -/
def spaced (isDigit : Char → Bool) : List Char → Option (List Char)
  | [] => none
  | [c] => if isDigit c then some [c] else none
  | c :: '_' :: cs => if isDigit c then (spaced isDigit cs).map (c :: ·) else none
  | c :: cs => if isDigit c then (spaced isDigit cs).map (c :: ·) else none

/-- Decimal digits, without a zero in front of others. -/
def whole (cs : List Char) : Option (List Char) :=
  match spaced Char.isDigit cs with
  | some ('0' :: _ :: _) => none
  | ds => ds

/-- The sign, if one is written, and the text after it. -/
def splitSign : List Char → Option Char × List Char
  | '+' :: cs => (some '+', cs)
  | '-' :: cs => (some '-', cs)
  | cs => (none, cs)

/-- An integer in decimal, or unsigned in another base. -/
def integer? (cs : List Char) : Option Int :=
  match splitSign cs with
  | (none, '0' :: 'x' :: ds) => (spaced isHexDigit ds).map fun ds => (numberIn 16 ds : Int)
  | (none, '0' :: 'o' :: ds) =>
    (spaced (fun c => '0' ≤ c && c ≤ '7') ds).map fun ds => (numberIn 8 ds : Int)
  | (none, '0' :: 'b' :: ds) =>
    (spaced (fun c => c == '0' || c == '1') ds).map fun ds => (numberIn 2 ds : Int)
  | (some '-', ds) => (whole ds).map fun ds => -(numberIn 10 ds : Int)
  | (_, ds) => (whole ds).map fun ds => (numberIn 10 ds : Int)

/-- Whether an integer fits in sixty-four bits with a sign. -/
def fits (n : Int) : Bool := -9223372036854775808 ≤ n && n < 9223372036854775808

/-- Where double precision ends: a number of this size or more rounds to infinity. -/
def floatLimit : Nat := Nat.pow 2 1024 - Nat.pow 2 970

/-- Whether `mantissa · 10 ^ exponent` is beyond double precision. -/
def overflows (mantissa : Nat) (exponent : Int) : Bool :=
  let size : Int := (Nat.toDigits 10 mantissa).length + exponent
  mantissa ≠ 0 &&
    (size > 310 ||
      (size > 300 &&
        if exponent ≥ 0 then mantissa * Nat.pow 10 exponent.toNat ≥ floatLimit
        else mantissa ≥ floatLimit * Nat.pow 10 (-exponent).toNat))

/-- The exponent written after its letter, or zero if nothing is written. -/
def exponent? : List Char → Option Int
  | [] => some 0
  | c :: cs =>
    if c = 'e' ∨ c = 'E' then
      match splitSign cs with
      | (some '-', ds) => (spaced Char.isDigit ds).map fun ds => -(numberIn 10 ds : Int)
      | (_, ds) => (spaced Char.isDigit ds).map fun ds => (numberIn 10 ds : Int)
    else none

/-- Whether the text is a floating-point number within range: digits, then a
fraction, an exponent or both. -/
def isFloat (cs : List Char) : Bool :=
  let (_, cs) := splitSign cs
  if cs = ['i', 'n', 'f'] ∨ cs = ['n', 'a', 'n'] then true
  else
    let first := cs.takeWhile fun c => c.isDigit || c == '_'
    match whole first, cs.drop first.length with
    | none, _ => false
    | some _, [] => false
    | some ds, '.' :: cs =>
      let second := cs.takeWhile fun c => c.isDigit || c == '_'
      match spaced Char.isDigit second, exponent? (cs.drop second.length) with
      | some fs, some e => !overflows (numberIn 10 (ds ++ fs)) (e - fs.length)
      | _, _ => false
    | some ds, cs =>
      match exponent? cs with
      | some e => !overflows (numberIn 10 ds) e
      | none => false

/-! ## Dates and times -/

/-- The number that exactly `width` digits at the front write. -/
def fixed (width : Nat) (cs : List Char) : Option (Nat × List Char) :=
  let ds := cs.take width
  if ds.length = width ∧ ds.all Char.isDigit then some (numberIn 10 ds, cs.drop width) else none

/-- Drops one expected character. -/
def expect (c : Char) : List Char → Option (List Char)
  | d :: cs => if d = c then some cs else none
  | [] => none

/-- Whether a year has a 29th of February. -/
def isLeapYear (year : Nat) : Bool := (year % 4 == 0 && year % 100 != 0) || year % 400 == 0

/-- How many days a month has. -/
def daysInMonth (year month : Nat) : Nat :=
  if month = 2 then (if isLeapYear year then 29 else 28)
  else if month = 4 ∨ month = 6 ∨ month = 9 ∨ month = 11 then 30
  else 31

/-- Drops a date from the front. -/
def date (cs : List Char) : Option (List Char) := do
  let (year, cs) ← fixed 4 cs
  let (month, cs) ← fixed 2 (← expect '-' cs)
  let (day, cs) ← fixed 2 (← expect '-' cs)
  if 1 ≤ month ∧ month ≤ 12 ∧ 1 ≤ day ∧ day ≤ daysInMonth year month then some cs else none

/-- Drops the fraction of a second, if there is one. -/
def fraction : List Char → Option (List Char)
  | '.' :: cs =>
    let ds := cs.takeWhile Char.isDigit
    if ds.isEmpty then none else some (cs.drop ds.length)
  | cs => some cs

/-- Drops a time from the front.  The seconds may be missing; the sixtieth is a
leap second. -/
def time (cs : List Char) : Option (List Char) := do
  let (hour, cs) ← fixed 2 cs
  let (minute, cs) ← fixed 2 (← expect ':' cs)
  if 23 < hour ∨ 59 < minute then none
  match cs with
  | ':' :: cs =>
    let (second, cs) ← fixed 2 cs
    if 60 < second then none
    fraction cs
  | _ => some cs

/-- Drops the distance from universal time, if there is one. -/
def offset : List Char → Option (List Char)
  | [] => some []
  | c :: cs =>
    if c = 'Z' ∨ c = 'z' then some cs
    else if c = '+' ∨ c = '-' then do
      let (hour, cs) ← fixed 2 cs
      let (minute, cs) ← fixed 2 (← expect ':' cs)
      if 23 < hour ∨ 59 < minute then none else some cs
    else none

/-- Whether the text is a date, a time, or both with or without an offset. -/
def isDatetime (cs : List Char) : Bool :=
  match date cs with
  | some [] => true
  | some (c :: cs) => (c == 'T' || c == 't' || c == ' ') && ((time cs).bind offset == some [])
  | none => time cs == some []

/-! ## Scalars -/

/-- What bare text says. -/
def ofBare (cs : List Char) : Except Fault Scalar :=
  if cs = "true".toList ∨ cs = "false".toList then .ok .boolean
  else if isDatetime cs then .ok .datetime
  else if isFloat cs then .ok .float
  else
    match integer? cs with
    | some n => if fits n then .ok (.integer n) else .error .badScalar
    | none => .error .badScalar

/-- The scalar that one part writes. -/
def ofRaw (raw : Raw) : Except Fault Scalar :=
  if raw.quoting = .bare then ofBare raw.content
  else
    match text? raw with
    | some s => .ok (.string s)
    | none => .error .badString

/-- The characters of a key that is written without quotation marks. -/
def isBareKeyChar (c : Char) : Bool := c.isAlphanum || c == '_' || c == '-'

/-- The key that one part writes; strings over several lines are no keys. -/
def keyOfRaw (raw : Raw) : Except Fault String :=
  match raw.quoting with
  | .bare =>
    if raw.content.all isBareKeyChar then .ok (String.ofList raw.content) else .error .badKey
  | .basic | .literal =>
    match text? raw with
    | some s => .ok s
    | none => .error .badKey
  | .multiBasic | .multiLiteral => .error .badKey

end Scalar

end ServiceSupervisor.Toml
