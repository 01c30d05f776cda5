import AppLifecycle.Text.Blank

/-!
# Blank text made visible

A message that shows blank text puts it between double quotes and spells out all characters but
the plain space.
-/

namespace AppLifecycle.Text

/-- A number in lower-case hexadecimal. -/
def hexadecimal (n : Nat) : String :=
  String.ofList (Nat.toDigits 16 n)

/-- A blank character as a message shows it. -/
def visibleBlank (c : Char) : String :=
  if c = ' ' then " "
  else if c = '\t' then "\\t"
  else if c = '\n' then "\\n"
  else if c = '\r' then "\\r"
  else "\\u\x7b" ++ hexadecimal c.toNat ++ "\x7d"

/-- Blank text between quotes. -/
def quotedBlank (text : String) : String :=
  "\"" ++ String.join (text.toList.map visibleBlank) ++ "\""

end AppLifecycle.Text
