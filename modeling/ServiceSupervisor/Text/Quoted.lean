import ServiceSupervisor.Text.Combining
import ServiceSupervisor.Text.Invisible

/-!
  Text/Quoted.lean --- text shown between double quotes.

  Messages quote the names that users wrote.  The quoted form shows what is
  there: a backslash and a quote are escaped, the common control characters have
  a letter, and every character that has no visible form or attaches to its
  neighbour is written by its number.
-/

set_option autoImplicit false

namespace ServiceSupervisor.Text

/-- The number of a character in lower-case hexadecimal, between braces. -/
def escapeNumber (c : Char) : List Char :=
  ['\\', 'u', '\x7b'] ++ Nat.toDigits 16 c.toNat ++ ['\x7d']

/-- How one character stands inside quoted text. -/
def quoteChar (c : Char) : List Char :=
  match c with
  | '\x00' => ['\\', '0']
  | '\t' => ['\\', 't']
  | '\r' => ['\\', 'r']
  | '\n' => ['\\', 'n']
  | '\\' => ['\\', '\\']
  | '"' => ['\\', '"']
  | c => if isCombining c || isInvisible c then escapeNumber c else [c]

/-- The text between double quotes. -/
def quote (s : String) : String :=
  String.ofList ('"' :: s.toList.flatMap quoteChar ++ ['"'])

/-- The texts quoted, separated by commas, between square brackets. -/
def quoteList (xs : List String) : String :=
  "[" ++ String.intercalate ", " (xs.map quote) ++ "]"

end ServiceSupervisor.Text
