import AppLifecycle.Json.Quoted

/-!
# Writing JSON

The values that are written hold whole numbers only. They are written without any space, or
indented by two spaces for each level.
-/

namespace AppLifecycle

/-- A value to be written as JSON. -/
inductive Json where
  | null
  | bool (value : Bool)
  | number (value : Nat)
  | string (value : String)
  | array (items : List Json)
  | object (members : List (String × Json))
  deriving Inhabited

namespace Json

/-- The text of a whole number. -/
def naturalText (n : Nat) : List Char :=
  Nat.toDigits 10 n

/-- The text of a literal. -/
def boolText (value : Bool) : List Char :=
  if value then "true".toList else "false".toList

mutual

/-- The text of a value without any space. -/
def compactChars : Json → List Char
  | null => "null".toList
  | bool value => boolText value
  | number value => naturalText value
  | string value => quote value.toList
  | array items => '[' :: compactItems items ++ [']']
  | object members => '\x7b' :: compactMembers members ++ ['\x7d']

/-- The items of an array, separated by commas. -/
def compactItems : List Json → List Char
  | [] => []
  | [item] => compactChars item
  | item :: rest => compactChars item ++ ',' :: compactItems rest

/-- The members of an object, separated by commas. -/
def compactMembers : List (String × Json) → List Char
  | [] => []
  | [(key, value)] => quote key.toList ++ ':' :: compactChars value
  | (key, value) :: rest =>
      quote key.toList ++ ':' :: compactChars value ++ ',' :: compactMembers rest

end

/-- The text of a value without any space. -/
def compact (value : Json) : String :=
  String.ofList value.compactChars

/-- A new line at a level. -/
def lineAt (level : Nat) : List Char :=
  '\n' :: List.replicate (2 * level) ' '

mutual

/-- The text of a value, indented, at a level. -/
def indentedChars (level : Nat) : Json → List Char
  | null => "null".toList
  | bool value => boolText value
  | number value => naturalText value
  | string value => quote value.toList
  | array items =>
      if items.isEmpty then ['[', ']']
      else '[' :: lineAt (level + 1) ++ indentedItems (level + 1) items ++ lineAt level ++ [']']
  | object members =>
      if members.isEmpty then ['\x7b', '\x7d']
      else
        '\x7b' :: lineAt (level + 1) ++ indentedMembers (level + 1) members ++ lineAt level ++
          ['\x7d']

/-- The items of an array, one on each line. -/
def indentedItems (level : Nat) : List Json → List Char
  | [] => []
  | [item] => indentedChars level item
  | item :: rest => indentedChars level item ++ ',' :: lineAt level ++ indentedItems level rest

/-- The members of an object, one on each line. -/
def indentedMembers (level : Nat) : List (String × Json) → List Char
  | [] => []
  | [(key, value)] => quote key.toList ++ ':' :: ' ' :: indentedChars level value
  | (key, value) :: rest =>
      quote key.toList ++ ':' :: ' ' :: indentedChars level value ++ ',' :: lineAt level ++
        indentedMembers level rest

end

/-- The text of a value, indented. -/
def indented (value : Json) : String :=
  String.ofList (value.indentedChars 0)

mutual

/-- The same value with the members of each object in the order of their keys. -/
def sortKeys : Json → Json
  | array items => array (sortItems items)
  | object members =>
      object ((sortMembers members).mergeSort fun first second => decide (first.1 ≤ second.1))
  | null => null
  | bool value => bool value
  | number value => number value
  | string value => string value

/-- The same items with their objects in order. -/
def sortItems : List Json → List Json
  | [] => []
  | item :: rest => sortKeys item :: sortItems rest

/-- The same members with the objects in them in order. -/
def sortMembers : List (String × Json) → List (String × Json)
  | [] => []
  | (key, value) :: rest => (key, sortKeys value) :: sortMembers rest

end

end Json

end AppLifecycle
