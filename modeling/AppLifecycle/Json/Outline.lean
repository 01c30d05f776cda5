import AppLifecycle.Json.Quoted

/-!
# Outlines of JSON texts

An `Outline` is the tree that a text spells as far as it can be followed. A text that breaks off
has an outline too, with the place of the break in it. Readers walk an outline in the order of
the text and so meet a misplaced value or a break, whichever comes first.

A number or string can be unreadable on its own while the text goes on behind it. Such a value
is only a problem for readers; those who skip it do not notice.
-/

namespace AppLifecycle.Json

/-- The name of a member, or why it cannot be read. -/
abbrev Key :=
  Except Breakage String

/-- What a text spells where a value is due. -/
inductive Outline where
  /-- No value begins here. -/
  | missing (why : Breakage)
  | null
  | bool (value : Bool)
  | number (value : Except Breakage Number)
  | string (value : Except Breakage String)
  /-- A number or a literal begins here and goes wrong. -/
  | brokenScalar (fault : Fault)
  /-- A string begins here and goes wrong. -/
  | brokenString (fault : Fault)
  /-- A list of values, closed unless there is a fault at its end. -/
  | array (items : List Outline) (ending : Option Fault)
  /-- A list of members, closed unless there is a fault at its end. -/
  | object (members : List (Key × Outline)) (ending : Option Fault)
  deriving Inhabited

/-- The fault at the end of a list, for a reader. -/
def readEnding : Option Fault → Except Breakage Unit
  | none => .ok ()
  | some fault => .error fault.read

/-- The fault at the end of a list, for one who skips. -/
def skipEnding : Option Fault → Except Breakage Unit
  | none => .ok ()
  | some fault => .error fault.skipped

namespace Outline

/-- The number of nested lists that a reader follows. -/
def nestingLimit : Nat :=
  127

mutual

/-- Reads a whole value without using it. Lists may be nested `levels` deep. -/
def readThrough (levels : Nat) : Outline → Except Breakage Unit
  | missing why => .error why
  | null => .ok ()
  | bool _ => .ok ()
  | number value => value.map fun _ => ()
  | string value => value.map fun _ => ()
  | brokenScalar fault => .error fault.read
  | brokenString fault => .error fault.read
  | array items ending =>
      match levels with
      | 0 => .error .malformed
      | levels + 1 => do
          readItems levels items
          readEnding ending
  | object members ending =>
      match levels with
      | 0 => .error .malformed
      | levels + 1 => do
          readMembers levels members
          readEnding ending

/-- Reads the items of a list without using them. -/
def readItems (levels : Nat) : List Outline → Except Breakage Unit
  | [] => .ok ()
  | item :: rest => do
      readThrough levels item
      readItems levels rest

/-- Reads the members of an object without using them. -/
def readMembers (levels : Nat) : List (Key × Outline) → Except Breakage Unit
  | [] => .ok ()
  | (key, value) :: rest => do
      let _ ← key
      readThrough levels value
      readMembers levels rest

end

mutual

/-- Skips a whole value. -/
def skip : Outline → Except Breakage Unit
  | missing why => .error why
  | null => .ok ()
  | bool _ => .ok ()
  | number _ => .ok ()
  | string _ => .ok ()
  | brokenScalar fault => .error fault.skipped
  | brokenString fault => .error fault.skipped
  | array items ending => do
      skipItems items
      skipEnding ending
  | object members ending => do
      skipMembers members
      skipEnding ending

/-- Skips the items of a list. -/
def skipItems : List Outline → Except Breakage Unit
  | [] => .ok ()
  | item :: rest => do
      skip item
      skipItems rest

/-- Skips the members of an object. -/
def skipMembers : List (Key × Outline) → Except Breakage Unit
  | [] => .ok ()
  | (_, value) :: rest => do
      skip value
      skipMembers rest

end

end Outline

end AppLifecycle.Json
