import ServiceSupervisor.Text.CharRange

/-!
  Text/Blank.lean --- blank characters, and trimming.

  Blank is the Unicode property `White_Space`: it has twenty-five members, more
  than the four that ASCII programs usually test for.
-/

set_option autoImplicit false

namespace ServiceSupervisor.Text

/-- The code points of the property `White_Space`, as ascending ranges. -/
def blankRanges : List (Nat × Nat) :=
  [(0x09, 0x0D), (0x20, 0x20), (0x85, 0x85), (0xA0, 0xA0), (0x1680, 0x1680), (0x2000, 0x200A),
   (0x2028, 0x2029), (0x202F, 0x202F), (0x205F, 0x205F), (0x3000, 0x3000)]

/-- They are ascending, and twenty-five in all. -/
example : blankRanges.Pairwise (fun r r' => r.2 < r'.1) ∧
    (blankRanges.map fun r => r.2 + 1 - r.1).sum = 25 := by decide

/-- Whether the character is blank. -/
def isBlank (c : Char) : Bool := inRanges blankRanges c

/-- Drops the blank characters at both ends. -/
def trimChars (cs : List Char) : List Char :=
  ((cs.dropWhile isBlank).reverse.dropWhile isBlank).reverse

/-- Drops the blank characters at both ends of a text. -/
def trim (s : String) : String := String.ofList (trimChars s.toList)

/-- A text is blank if it has no other character. -/
def isBlankText (s : String) : Bool := s.toList.all isBlank

end ServiceSupervisor.Text
