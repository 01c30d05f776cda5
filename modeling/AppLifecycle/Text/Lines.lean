/-!
# Lines of text

A line ends with a newline, and a carriage return right before the newline belongs to the end.
What follows the last newline is a line too, even if it is empty.
-/

namespace AppLifecycle.Text

/-- Puts a character in front of the first line. -/
def consLine (c : Char) : List (List Char) → List (List Char)
  | [] => [[c]]
  | line :: rest => (c :: line) :: rest

/-- The lines of a text without their ends. -/
def lines : List Char → List (List Char)
  | [] => [[]]
  | '\n' :: rest => [] :: lines rest
  | '\r' :: '\n' :: rest => [] :: lines rest
  | c :: rest => consLine c (lines rest)

end AppLifecycle.Text
