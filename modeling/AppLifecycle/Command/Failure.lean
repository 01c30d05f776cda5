import AppLifecycle.Failure
import AppLifecycle.Json.Read

/-!
# How a command fails

A command fails over a file, over a text that is not what it should be, or over a request that
cannot be met. A failure is told with its circumstances, the widest first.
-/

namespace AppLifecycle

/-- Why a file cannot be read as text. -/
inductive FileError where
  | notFound
  | isDirectory
  /-- The bytes of the file are not UTF-8. -/
  | notText
  /-- The host refuses for another reason. -/
  | unreadable
  deriving DecidableEq, Inhabited, Repr

namespace FileError

/-- The text of an error about a file. -/
def message : FileError → String
  | notFound => "no such file"
  | isDirectory => "is a directory"
  | notText => "is not UTF-8 text"
  | unreadable => "cannot be read"

end FileError

/-- Why a command fails. -/
inductive Cause where
  | file (error : FileError)
  | json (error : Json.ReadError)
  | failure (failure : Failure)
  deriving DecidableEq, Inhabited, Repr

namespace Cause

/-- The text of a cause. -/
def message : Cause → String
  | file error => error.message
  | json error => error.message?.getD "is not JSON"
  | failure why => why.message

end Cause

/-- Why a command fails, and what it was about, the widest circumstance first. -/
structure CommandFailure where
  context : List String
  cause : Cause
  deriving DecidableEq, Inhabited, Repr

namespace CommandFailure

/-- The same failure in a wider circumstance. -/
def within (circumstance : String) (failure : CommandFailure) : CommandFailure :=
  { failure with context := circumstance :: failure.context }

/-- The text of a failure: its circumstances and then its cause. -/
def message (failure : CommandFailure) : String :=
  String.intercalate ": " (failure.context ++ [failure.cause.message])

end CommandFailure

end AppLifecycle
