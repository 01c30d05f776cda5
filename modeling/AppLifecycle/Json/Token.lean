import AppLifecycle.Json.Outline

/-!
# Tokens of JSON texts

A text is cut into brackets, separators, literals, numbers and strings, with white space between
them. Cutting stops at the first token that goes wrong.
-/

namespace AppLifecycle.Json

/-- A piece of a JSON text. -/
inductive Token where
  | openArray
  | closeArray
  | openObject
  | closeObject
  | comma
  | colon
  | null
  | bool (value : Bool)
  | number (value : Except Breakage Number)
  | quoted (value : Except Breakage String)
  /-- A number or a literal that goes wrong. -/
  | brokenScalar (fault : Fault)
  /-- A string that goes wrong. -/
  | brokenString (fault : Fault)
  /-- A character with which no token begins. -/
  | stray
  deriving Inhabited

/-- Whether a character may stand between tokens. -/
def isSpace (c : Char) : Bool :=
  c = ' ' || c = '\n' || c = '\r' || c = '\t'

/-- The rest of a text behind the letters that are due. -/
def takeLetters : List Char → List Char → Except Breakage (List Char)
  | [], rest => .ok rest
  | _ :: _, [] => .error .unfinished
  | due :: letters, c :: rest =>
      if c = due then takeLetters letters rest else .error .malformed

/-- A token that has been cut off, and the text behind it, unless it goes wrong. -/
abbrev Cut :=
  Token × Option (List Char)

/-- Cuts off a literal whose first letter is known. -/
def cutLiteral (letters : List Char) (token : Token) (rest : List Char) : Cut :=
  match takeLetters letters rest with
  | .ok rest => (token, some rest)
  | .error why => (.brokenScalar ⟨why, why⟩, none)

/-- Cuts off a number. -/
def cutNumber (chars : List Char) : Cut :=
  match takeNumber chars with
  | .ok (parts, rest) => (.number parts.value, some rest)
  | .error fault => (.brokenScalar fault, none)

/-- Cuts off a string whose opening quote has been taken. -/
def cutString (chars : List Char) : Cut :=
  match skipQuoted chars with
  | .ok rest => (.quoted (quotedText chars), some rest)
  | .error skipped =>
      match quotedText chars with
      | .ok _ => (.brokenString ⟨skipped, skipped⟩, none)
      | .error read => (.brokenString ⟨read, skipped⟩, none)

/-- The token that a character is on its own. -/
def punctuation? (c : Char) : Option Token :=
  if c = '[' then some .openArray
  else if c = ']' then some .closeArray
  else if c = '\x7b' then some .openObject
  else if c = '\x7d' then some .closeObject
  else if c = ',' then some .comma
  else if c = ':' then some .colon
  else none

/-- Cuts off the token that begins with a character. -/
def cut (c : Char) (rest : List Char) : Cut :=
  match punctuation? c with
  | some token => (token, some rest)
  | none =>
      if c = '"' then cutString rest
      else if c = 'n' then cutLiteral "ull".toList .null rest
      else if c = 't' then cutLiteral "rue".toList (.bool true) rest
      else if c = 'f' then cutLiteral "alse".toList (.bool false) rest
      else if c = '-' ∨ c.isDigit then cutNumber (c :: rest)
      else (.stray, none)

theorem length_takeLetters_le {letters chars rest : List Char}
    (h : takeLetters letters chars = .ok rest) : rest.length ≤ chars.length := by
  fun_induction takeLetters letters chars with
  | case1 =>
      cases h
      exact Nat.le_refl _
  | case2 => cases h
  | case3 _ _ _ ih =>
      have bound := ih h
      simp only [List.length_cons]
      omega
  | case4 => cases h

theorem length_cutLiteral_le {letters chars rest : List Char} {token : Token}
    (h : (cutLiteral letters token chars).2 = some rest) : rest.length ≤ chars.length := by
  unfold cutLiteral at h
  split at h
  · rename_i found
    cases h
    exact length_takeLetters_le found
  · cases h

theorem length_cutString_le {chars rest : List Char} (h : (cutString chars).2 = some rest) :
    rest.length ≤ chars.length := by
  unfold cutString at h
  split at h
  · rename_i found
    cases h
    exact Nat.le_of_lt (length_skipQuoted_lt found)
  · split at h <;> cases h

theorem length_cutNumber_lt {chars rest : List Char} (h : (cutNumber chars).2 = some rest) :
    rest.length < chars.length := by
  unfold cutNumber at h
  split at h
  · rename_i found
    cases h
    exact length_takeNumber_lt found
  · cases h

/-- A token takes up text. -/
theorem length_cut_le {c : Char} {chars rest : List Char} (h : (cut c chars).2 = some rest) :
    rest.length ≤ chars.length := by
  unfold cut at h
  split at h
  · cases h
    exact Nat.le_refl _
  · split at h
    · exact length_cutString_le h
    · split at h
      · exact length_cutLiteral_le h
      · split at h
        · exact length_cutLiteral_le h
        · split at h
          · exact length_cutLiteral_le h
          · split at h
            · exact Nat.le_of_lt_succ (length_cutNumber_lt h)
            · cases h

/-- The tokens of a text, up to the first that goes wrong. -/
def tokens : List Char → List Token
  | [] => []
  | c :: chars =>
      if isSpace c then tokens chars
      else
        match _ : cut c chars with
        | (token, some rest) => token :: tokens rest
        | (token, none) => [token]
  termination_by chars => chars.length
  decreasing_by
    · simp
    · have bound := @length_cut_le c chars rest (by rw [‹cut c chars = _›])
      simp only [List.length_cons]
      omega

end AppLifecycle.Json
