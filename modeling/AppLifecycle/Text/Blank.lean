/-!
# Blank text

A character is blank if Unicode counts it as white space. Text is blank if all its characters
are.
-/

namespace AppLifecycle.Text

/-- The characters of Unicode's property `White_Space`, as ranges of code points. -/
def blankRanges : List (Nat × Nat) :=
  [(0x9, 0xD), (0x20, 0x20), (0x85, 0x85), (0xA0, 0xA0), (0x1680, 0x1680), (0x2000, 0x200A),
    (0x2028, 0x2029), (0x202F, 0x202F), (0x205F, 0x205F), (0x3000, 0x3000)]

/-- Whether a character is white space. -/
def isBlankChar (c : Char) : Bool :=
  blankRanges.any fun range => range.1 ≤ c.toNat && c.toNat ≤ range.2

/-- Whether text has no character but white space. -/
def isBlank (text : List Char) : Bool :=
  text.all isBlankChar

/-- Text without the white space it starts with. -/
def dropBlank (text : List Char) : List Char :=
  text.dropWhile isBlankChar

end AppLifecycle.Text
