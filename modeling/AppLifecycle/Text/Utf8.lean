/-!
# Reading UTF-8

Bytes are read as characters from the front. Where they do not continue as a character, the
longest start of one (or else a single byte) is one invalid piece. Lenient reading puts the
replacement character in the place of each invalid piece; strict reading accepts none.
-/

namespace AppLifecycle.Text

/-- Whether a byte continues a character. -/
def isContinuation (byte : UInt8) : Bool :=
  0x80 ≤ byte && byte ≤ 0xBF

/-- The six low bits of a byte that continues a character. -/
def continuationBits (byte : UInt8) : Nat :=
  byte.toNat % 64

/-- How a character goes on after its first byte: the bits of that byte, the range of the second
byte, and the number of bytes after the second. -/
structure Utf8Lead where
  bits : Nat
  low : UInt8
  high : UInt8
  more : Nat

namespace Utf8Lead

/-- What the first byte of a longer character says. The ranges of the second byte leave out
characters with a shorter form, surrogates, and numbers that are too large. -/
def ofByte? (byte : UInt8) : Option Utf8Lead :=
  if 0xC2 ≤ byte && byte ≤ 0xDF then some ⟨byte.toNat % 32, 0x80, 0xBF, 0⟩
  else if byte = 0xE0 then some ⟨0, 0xA0, 0xBF, 1⟩
  else if byte = 0xED then some ⟨13, 0x80, 0x9F, 1⟩
  else if 0xE1 ≤ byte && byte ≤ 0xEF then some ⟨byte.toNat % 16, 0x80, 0xBF, 1⟩
  else if byte = 0xF0 then some ⟨0, 0x90, 0xBF, 2⟩
  else if 0xF1 ≤ byte && byte ≤ 0xF3 then some ⟨byte.toNat % 8, 0x80, 0xBF, 2⟩
  else if byte = 0xF4 then some ⟨4, 0x80, 0x8F, 2⟩
  else none

end Utf8Lead

/-- Goes on with a character of which `bits` are known and `more` bytes are missing. -/
def continueChar (bits : Nat) : Nat → List UInt8 → Option Char × List UInt8
  | 0, bytes => (some (Char.ofNat bits), bytes)
  | _ + 1, [] => (none, [])
  | more + 1, byte :: rest =>
      if isContinuation byte then continueChar (bits * 64 + continuationBits byte) more rest
      else (none, byte :: rest)

/-- The character that starts with the byte `first`, or none for an invalid piece, with the
bytes that follow. -/
def firstChar (first : UInt8) (rest : List UInt8) : Option Char × List UInt8 :=
  if first < 0x80 then
    (some (Char.ofNat first.toNat), rest)
  else
    match Utf8Lead.ofByte? first, rest with
    | some lead, second :: rest =>
        if lead.low ≤ second && second ≤ lead.high then
          continueChar (lead.bits * 64 + continuationBits second) lead.more rest
        else
          (none, second :: rest)
    | _, _ => (none, rest)

theorem length_continueChar_le (bits more : Nat) (bytes : List UInt8) :
    (continueChar bits more bytes).2.length ≤ bytes.length := by
  fun_induction continueChar bits more bytes with
  | case1 => simp
  | case2 => simp
  | case3 bits more byte rest h ih =>
      simp only [List.length_cons]
      omega
  | case4 => simp

theorem length_firstChar_le (first : UInt8) (rest : List UInt8) :
    (firstChar first rest).2.length ≤ rest.length := by
  unfold firstChar
  split
  · simp
  · split
    · split
      · have bound := length_continueChar_le
        simp only [List.length_cons]
        exact Nat.le_succ_of_le (bound ..)
      · simp
    · simp

/-- The characters that bytes spell, with none for each invalid piece. -/
def utf8Pieces : List UInt8 → List (Option Char)
  | [] => []
  | first :: rest =>
      let piece := firstChar first rest
      piece.1 :: utf8Pieces piece.2
  termination_by bytes => bytes.length
  decreasing_by
    have bound := length_firstChar_le first rest
    simp only [List.length_cons]
    omega

/-- The character that stands for bytes that are no character. -/
def replacementChar : Char :=
  Char.ofNat 0xFFFD

/-- The text that bytes spell, with a replacement character for each invalid piece. -/
def decodeLossy (bytes : List UInt8) : String :=
  String.ofList ((utf8Pieces bytes).map (·.getD replacementChar))

/-- The text that bytes spell, if they are valid throughout. -/
def decodeStrict? (bytes : List UInt8) : Option String :=
  ((utf8Pieces bytes).mapM id).map String.ofList

end AppLifecycle.Text
