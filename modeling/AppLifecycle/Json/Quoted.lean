import AppLifecycle.Json.Number

/-!
# Strings in JSON

A string stands between quotes. Quotes, backslashes and control characters inside it are
escaped. A character beyond the first plane may be escaped as two halves; one who skips a string
does not check that halves come in pairs.
-/

namespace AppLifecycle.Json

/-- The digit of a number below sixteen. -/
def hexDigit (n : Nat) : Char :=
  Nat.digitChar n

/-- A character as it stands inside quotes. -/
def escapeChar (c : Char) : List Char :=
  if c = '"' then ['\\', '"']
  else if c = '\\' then ['\\', '\\']
  else if c = '\n' then ['\\', 'n']
  else if c = '\r' then ['\\', 'r']
  else if c = '\t' then ['\\', 't']
  else if c.toNat = 8 then ['\\', 'b']
  else if c.toNat = 12 then ['\\', 'f']
  else if c.toNat < 32 then
    ['\\', 'u', '0', '0', hexDigit (c.toNat / 16), hexDigit (c.toNat % 16)]
  else [c]

/-- Text between quotes. -/
def quote (text : List Char) : List Char :=
  '"' :: text.flatMap escapeChar ++ ['"']

/-- The character behind a one-letter escape. -/
def unescape? (c : Char) : Option Char :=
  if c = '"' ∨ c = '\\' ∨ c = '/' then some c
  else if c = 'b' then some (Char.ofNat 8)
  else if c = 'f' then some (Char.ofNat 12)
  else if c = 'n' then some '\n'
  else if c = 'r' then some '\r'
  else if c = 't' then some '\t'
  else none

/-- The value of a hexadecimal digit. -/
def hexValue? (c : Char) : Option Nat :=
  if c.isDigit then some (c.toNat - '0'.toNat)
  else if 'a' ≤ c ∧ c ≤ 'f' then some (c.toNat - 'a'.toNat + 10)
  else if 'A' ≤ c ∧ c ≤ 'F' then some (c.toNat - 'A'.toNat + 10)
  else none

/-- The value of four hexadecimal digits. -/
def hexWord? (a b c d : Char) : Option Nat := do
  return (((← hexValue? a) * 16 + (← hexValue? b)) * 16 + (← hexValue? c)) * 16 + (← hexValue? d)

/-- Fewer than four characters stand where four digits are due. The text has ended unless as
many bytes are left. -/
def wordDue (rest : List Char) : Breakage :=
  if (String.ofList rest).utf8ByteSize < 4 then .unfinished else .malformed

/-- Whether a 16-bit word is the first half of a character. -/
def isLeadingHalf (word : Nat) : Bool :=
  0xD800 ≤ word && word ≤ 0xDBFF

/-- Whether a 16-bit word is the second half of a character. -/
def isTrailingHalf (word : Nat) : Bool :=
  0xDC00 ≤ word && word ≤ 0xDFFF

/-- The character of two halves. -/
def joinHalves (leading trailing : Nat) : Char :=
  Char.ofNat (0x10000 + (leading - 0xD800) * 0x400 + (trailing - 0xDC00))

/-- What one reads behind an opening quote: the text up to the closing quote, and what follows
it. -/
abbrev QuotedText :=
  Except Breakage (List Char × List Char)

/-- Puts a character in front of what is read. -/
def consChar (c : Char) (text : QuotedText) : QuotedText :=
  text.map fun (chars, rest) => (c :: chars, rest)

/-- Reads up to the closing quote. -/
def readQuoted : List Char → QuotedText
  | [] => .error .unfinished
  | '"' :: rest => .ok ([], rest)
  | '\\' :: escaped =>
      match escaped with
      | [] => .error .unfinished
      | 'u' :: digits =>
          match digits with
          | a :: b :: c :: d :: rest =>
              match hexWord? a b c d with
              | none => .error .malformed
              | some word =>
                  if isTrailingHalf word then .error .malformed
                  else if isLeadingHalf word then
                    match rest with
                    | [] => .error .unfinished
                    | '\\' :: [] => .error .unfinished
                    | '\\' :: 'u' :: digits =>
                        match digits with
                        | a :: b :: c :: d :: rest =>
                            match hexWord? a b c d with
                            | none => .error .malformed
                            | some second =>
                                if isTrailingHalf second then
                                  consChar (joinHalves word second) (readQuoted rest)
                                else .error .malformed
                        | short => .error (wordDue short)
                    | _ => .error .malformed
                  else consChar (Char.ofNat word) (readQuoted rest)
          | short => .error (wordDue short)
      | letter :: rest =>
          match unescape? letter with
          | some c => consChar c (readQuoted rest)
          | none => .error .malformed
  | c :: rest => if c.toNat < 32 then .error .malformed else consChar c (readQuoted rest)

/-- Skips to what follows the closing quote. -/
def skipQuoted : List Char → Except Breakage (List Char)
  | [] => .error .unfinished
  | '"' :: rest => .ok rest
  | '\\' :: escaped =>
      match escaped with
      | [] => .error .unfinished
      | 'u' :: digits =>
          match digits with
          | a :: b :: c :: d :: rest =>
              if (hexWord? a b c d).isSome then skipQuoted rest else .error .malformed
          | short => .error (wordDue short)
      | letter :: rest =>
          if (unescape? letter).isSome then skipQuoted rest else .error .malformed
  | c :: rest => if c.toNat < 32 then .error .malformed else skipQuoted rest

/-- The text before the closing quote. -/
def quotedText (chars : List Char) : Except Breakage String :=
  (readQuoted chars).map fun (text, _) => String.ofList text

theorem length_skipQuoted_lt {chars rest : List Char} (h : skipQuoted chars = .ok rest) :
    rest.length < chars.length := by
  fun_induction skipQuoted chars with
  | case1 => cases h
  | case2 =>
      cases h
      simp
  | case3 => cases h
  | case4 a b c d rest hex ih =>
      have bound := ih h
      simp only [List.length_cons]
      omega
  | case5 => cases h
  | case6 => cases h
  | case7 letter rest _ _ ih =>
      have bound := ih h
      simp only [List.length_cons]
      omega
  | case8 => cases h
  | case9 => cases h
  | case10 c rest _ _ _ ih =>
      have bound := ih h
      simp only [List.length_cons]
      omega

end AppLifecycle.Json
