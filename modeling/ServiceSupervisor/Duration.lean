/-!
  Duration.lean --- spans of time, counted in nanoseconds, and their text.
-/

set_option autoImplicit false

namespace ServiceSupervisor

/-- A span of time, in whole nanoseconds. -/
structure Duration where
  nanos : Nat
  deriving DecidableEq, Repr, Inhabited

namespace Duration

/-- No time at all. -/
def zero : Duration := ⟨0⟩

/-- A number of milliseconds. -/
def ofMillis (ms : Nat) : Duration := ⟨ms * 1000000⟩

/-- A number of seconds. -/
def ofSeconds (s : Nat) : Duration := ⟨s * 1000000000⟩

/-- Seconds and a count of nanoseconds on top of them. -/
def ofParts (seconds nanos : Nat) : Duration := ⟨seconds * 1000000000 + nanos⟩

/-- Whether no time is waited. -/
def isZero (d : Duration) : Bool := d.nanos == 0

/-- The whole seconds of the span. -/
def seconds (d : Duration) : Nat := d.nanos / 1000000000

/-- The nanoseconds beyond the whole seconds. -/
def subsecond (d : Duration) : Nat := d.nanos % 1000000000

/-- `value` written with exactly `width` digits, zeros in front. -/
def padded (width value : Nat) : List Char :=
  let digits := Nat.toDigits 10 value
  List.replicate (width - digits.length) '0' ++ digits

/-- A count of thousandths, millionths or billionths (`places` digits) after the
point, without the zeros at its end; nothing if the count is zero. -/
def fraction (places count : Nat) : List Char :=
  match ((padded places count).reverse.dropWhile (· == '0')).reverse with
  | [] => []
  | ds => '.' :: ds

/-- `nanos` in the unit that is `10 ^ places` nanoseconds. -/
def inUnit (places nanos : Nat) (unit : String) : String :=
  let one := Nat.pow 10 places
  String.ofList (Nat.toDigits 10 (nanos / one) ++ fraction places (nanos % one)) ++ unit

/-- The span in the largest of s, ms, µs and ns of which it holds at least one. -/
def text (d : Duration) : String :=
  if d.nanos ≥ 1000000000 then inUnit 9 d.nanos "s"
  else if d.nanos ≥ 1000000 then inUnit 6 d.nanos "ms"
  else if d.nanos ≥ 1000 then inUnit 3 d.nanos "µs"
  else inUnit 0 d.nanos "ns"

end Duration

end ServiceSupervisor
