/-!
  Text/Split.lean --- cutting a sequence at a separator, and text into lines.
-/

set_option autoImplicit false

namespace ServiceSupervisor.Text

section Alphabet

variable {α : Type} [DecidableEq α]

/-- The parts between the separators; empty ones are kept. -/
def split (sep : α) : List α → List (List α)
  | [] => [[]]
  | x :: xs =>
    if x = sep then [] :: split sep xs
    else
      match split sep xs with
      | [] => [[x]]
      | s :: ss => (x :: s) :: ss

theorem split_ne_nil (sep : α) (xs : List α) : split sep xs ≠ [] := by
  cases xs with
  | nil => simp [split]
  | cons x xs =>
    simp only [split]
    split
    · simp
    · split <;> simp

end Alphabet

/-- A line without the carriage return at its end. -/
def withoutReturn (line : List Char) : List Char :=
  match line.reverse with
  | '\r' :: rest => rest.reverse
  | _ => line

/-- The lines of a text.  A line ends with a line feed, perhaps after a carriage
return; what stands after the last line feed is a line unless it is empty. -/
def lines (text : List Char) : List (List Char) :=
  match (split '\n' text).reverse with
  | [] => []
  | last :: ended =>
    (ended.reverse.map withoutReturn) ++ (if last = [] then [] else [last])

end ServiceSupervisor.Text
