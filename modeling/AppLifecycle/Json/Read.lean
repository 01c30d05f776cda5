import AppLifecycle.Json.Document

/-!
# Reading values from outlines

A reader takes the outline of a text to a value of some type, or to the first thing in the text
that stands in its way.
-/

namespace AppLifecycle.Json

/-- Why a text cannot be read as a value of the type that is wanted. -/
inductive ReadError where
  /-- The text is not JSON. -/
  | broken (why : Breakage)
  | missingField (name : String)
  | duplicateField (name : String)
  | unknownVariant (given : String) (known : List String)
  /-- A value of another kind stands there. -/
  | invalidType
  /-- A number is out of range. -/
  | invalidValue
  /-- A list has too few items. -/
  | invalidLength
  /-- Neither the name of a chrome level nor a hint stands there. -/
  | notChromeLevel (found : String)
  deriving DecidableEq, Inhabited, Repr

namespace ReadError

/-- A name as messages show it. -/
def ticked (name : String) : String :=
  "`" ++ name ++ "`"

/-- The text of an error about the shape of a value. There is none for a text that is not JSON.
-/
def message? : ReadError → Option String
  | broken _ => none
  | missingField name => some ("missing field " ++ ticked name)
  | duplicateField name => some ("duplicate field " ++ ticked name)
  | unknownVariant given known =>
      some ("unknown variant " ++ ticked given ++ ", expected one of " ++
        String.intercalate ", " (known.map ticked))
  | invalidType => some "invalid type"
  | invalidValue => some "invalid value"
  | invalidLength => some "invalid length"
  | notChromeLevel found =>
      some ("invalid type: " ++ found ++ ", expected a chrome level name or raw chrome hint")

end ReadError

/-- What may go wrong with a text goes wrong for a reader. -/
def orBroken {α : Type} (result : Except Breakage α) : Except ReadError α :=
  result.mapError .broken

/-- Takes an outline to a value. -/
abbrev Reader (α : Type) :=
  Outline → Except ReadError α

namespace Outline

/-- Why an outline is not of the kind that is wanted. A scalar is read before its kind is found
wrong; a list is not. -/
def mismatch : Outline → ReadError
  | missing why => .broken why
  | number (.error why) => .broken why
  | string (.error why) => .broken why
  | brokenScalar fault => .broken fault.read
  | brokenString fault => .broken fault.read
  | _ => .invalidType

end Outline

/-- Reads a string. -/
def readText : Reader String
  | .string (.ok text) => .ok text
  | other => .error other.mismatch

/-- Reads a truth value. -/
def readBool : Reader Bool
  | .bool value => .ok value
  | other => .error other.mismatch

/-- Reads a natural number below a bound. -/
def readNatural (bound : Nat) : Reader Nat
  | .number (.ok (.natural value)) => if value < bound then .ok value else .error .invalidValue
  | .number (.ok (.negative _)) => .error .invalidValue
  | other => .error other.mismatch

/-- Reads a number of 32 bits. -/
def readUInt32 : Reader UInt32 := fun outline =>
  (readNatural UInt32.size outline).map UInt32.ofNat

/-- Reads a number of 64 bits. -/
def readUInt64 : Reader UInt64 := fun outline =>
  (readNatural UInt64.size outline).map UInt64.ofNat

/-- Reads each of some values. -/
def readEach {α : Type} (read : Reader α) : List Outline → Except ReadError (List α)
  | [] => .ok []
  | item :: rest => do
      let value ← read item
      let values ← readEach read rest
      return value :: values

/-- Reads an array of values of one type. -/
def readArray {α : Type} (read : Reader α) : Reader (List α)
  | .array items ending => do
      let values ← readEach read items
      orBroken (readEnding ending)
      return values
  | other => .error other.mismatch

/-- Reads a value, or nothing where null stands. -/
def readOptional {α : Type} (read : Reader α) : Reader (Option α)
  | .null => .ok none
  | other => (read other).map some

/-- The member of a list that goes by a name. -/
def findNamed {α : Type} (all : List α) (name : α → String) (given : String) :
    Except ReadError α :=
  match all.find? fun candidate => name candidate = given with
  | some found => .ok found
  | none => .error (.unknownVariant given (all.map name))

/-- Reads an object that has one member, whose name chooses how its value is read; or a name
that is a value by itself. -/
def readChoice {α : Type} (choose : String → Except ReadError (Reader α))
    (alone : String → Except ReadError α) : Reader α
  | .object [] none => .error (.broken .malformed)
  | .object [] (some fault) => .error (.broken fault.read)
  | .object ((key, content) :: rest) ending => do
      let name ← orBroken key
      let read ← choose name
      let value ← read content
      if rest.isEmpty then
        orBroken (readEnding ending)
        return value
      else
        .error (.broken .malformed)
  | .string text => do
      let name ← orBroken text
      alone name
  | .missing why => .error (.broken why)
  | .brokenString fault => .error (.broken fault.read)
  | _ => .error (.broken .malformed)

/-- Reads a name that stands on its own, or as the name of a member whose value is null. -/
def readName {α : Type} (all : List α) (name : α → String) : Reader α :=
  readChoice
    (fun given => do
      let found ← findNamed all name given
      return fun
        | .null => .ok found
        | other => .error other.mismatch)
    (findNamed all name)

/-- Reads a name among the members of a message. The value of a member whose name counts may
also be an object without members. -/
def readNameWithin {α : Type} (all : List α) (name : α → String) : Reader α
  | .string (.ok given) => findNamed all name given
  | .object [(key, content)] _ => do
      let given ← orBroken key
      let found ← findNamed all name given
      match content with
      | .null => return found
      | .object [] _ => return found
      | _ => .error .invalidType
  | .object _ _ => .error .invalidValue
  | other => .error other.mismatch

/-- Reads a text that holds one value and nothing else. -/
def readDocument {α : Type} (read : Reader α) (text : List Char) : Except ReadError α := do
  let document := Document.ofText text
  let value ← read document.value
  if document.excess then .error (.broken .malformed) else return value

end AppLifecycle.Json
