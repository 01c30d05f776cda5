import AppLifecycle.Text.Utf8

/-!
# The application id in the environment of a process

A launcher names the application in the entry `APP_ID` of the environment. The environment is a
block of bytes in which each entry ends with a zero byte.
-/

namespace AppLifecycle.Host

/-- The bytes before each zero byte, and those after the last one. -/
def splitAtZero : List UInt8 → List (List UInt8)
  | [] => [[]]
  | byte :: rest =>
      if byte = 0 then [] :: splitAtZero rest
      else
        match splitAtZero rest with
        | entry :: entries => (byte :: entry) :: entries
        | [] => [[byte]]

/-- What an entry that names the application starts with. -/
def appIdKey : List UInt8 :=
  "APP_ID=".toUTF8.toList

/-- The value of an entry that names the application. -/
def appIdValue? (entry : List UInt8) : Option (List UInt8) :=
  if appIdKey.isPrefixOf entry then some (entry.drop appIdKey.length) else none

/-- The first application id in an environment that is not empty, as text. -/
def appIdOfEnviron? (environ : List UInt8) : Option String :=
  (((splitAtZero environ).filterMap appIdValue?).find? fun value => !value.isEmpty).map
    Text.decodeLossy

end AppLifecycle.Host
