import AppLifecycle.Text.Blank

/-!
# The state of a process in its status line

A status line reads `<pid> (<command>) <state> ...`. The command may hold any characters,
closing parentheses too, while none stands behind it: the state is the first character, white
space apart, after the last closing parenthesis.
-/

namespace AppLifecycle.Host

/-- What follows the last occurrence of a mark. -/
def afterLast? (mark : Char) : List Char → Option (List Char)
  | [] => none
  | c :: rest =>
      match afterLast? mark rest with
      | some found => some found
      | none => if c = mark then some rest else none

/-- The state letter of a status line. -/
def stateOfStat? (stat : String) : Option Char :=
  (afterLast? ')' stat.toList).bind fun rest => (Text.dropBlank rest).head?

/-- Whether a process in this state will never run again. -/
def isGone (state : Char) : Bool :=
  state = 'Z' || state = 'X' || state = 'x'

end AppLifecycle.Host
