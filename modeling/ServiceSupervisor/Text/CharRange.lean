/-!
  Text/CharRange.lean --- character classes given as tables of ranges.

  A Unicode property is a set of code points; the tables of this library list it
  as ascending closed ranges, and membership is a scan of the table.
-/

set_option autoImplicit false

namespace ServiceSupervisor.Text

/-- Whether some range of the table holds the character's code point. -/
def inRanges (table : List (Nat × Nat)) (c : Char) : Bool :=
  table.any fun r => r.1 ≤ c.toNat && c.toNat ≤ r.2

end ServiceSupervisor.Text
