import AppLifecycle.Json.Document
import AppLifecycle.Json.Value

/-!
# How JSON is spelled

A JSON text spells a `Datum`: the tokens of the datum stand in it one after the other, with space
before, between and behind them. Most tokens are spelled in one way. A number is spelled by its
parts, with either mark and an optional plus sign at its exponent; a character of a string stands
for itself, or is escaped by a letter, by its code in hexadecimal, or by the codes of two halves.
-/

namespace AppLifecycle.Json

/-- What a complete JSON text says. -/
inductive Datum where
  | null
  | bool (value : Bool)
  /-- A number, with the parts that are written. -/
  | number (parts : NumberParts)
  | string (text : String)
  | array (items : List Datum)
  | object (members : List (String × Datum))
  deriving Inhabited

namespace Datum

mutual

/-- The tokens that a datum is spelled with. -/
def tokens : Datum → List Token
  | null => [.null]
  | bool value => [.bool value]
  | number parts => [.number parts.value]
  | string text => [.quoted (.ok text)]
  | array items => .openArray :: itemTokens items ++ [.closeArray]
  | object members => .openObject :: memberTokens members ++ [.closeObject]

/-- The tokens of the items of an array. -/
def itemTokens : List Datum → List Token
  | [] => []
  | [item] => item.tokens
  | item :: rest => item.tokens ++ .comma :: itemTokens rest

/-- The tokens of the members of an object. -/
def memberTokens : List (String × Datum) → List Token
  | [] => []
  | [(key, value)] => .quoted (.ok key) :: .colon :: value.tokens
  | (key, value) :: rest =>
      .quoted (.ok key) :: .colon :: value.tokens ++ .comma :: memberTokens rest

end

mutual

/-- The number of lists that are nested in each other. -/
def depth : Datum → Nat
  | null | bool _ | number _ | string _ => 0
  | array items => itemDepth items + 1
  | object members => memberDepth members + 1

/-- The number of nested lists among items. -/
def itemDepth : List Datum → Nat
  | [] => 0
  | item :: rest => max item.depth (itemDepth rest)

/-- The number of nested lists among members. -/
def memberDepth : List (String × Datum) → Nat
  | [] => 0
  | (_, value) :: rest => max value.depth (memberDepth rest)

end

mutual

/-- No number leaves the range of floating point while it is read. -/
def InRange : Datum → Prop
  | number parts => ∃ value, parts.value = .ok value
  | null | bool _ | string _ => True
  | array items => ItemsInRange items
  | object members => MembersInRange members

/-- No number among items leaves the range of floating point while it is read. -/
def ItemsInRange : List Datum → Prop
  | [] => True
  | item :: rest => item.InRange ∧ ItemsInRange rest

/-- No number among members leaves the range of floating point while it is read. -/
def MembersInRange : List (String × Datum) → Prop
  | [] => True
  | (_, value) :: rest => value.InRange ∧ MembersInRange rest

end

/-- A datum that readers follow to its end. -/
structure Readable (datum : Datum) : Prop where
  shallow : datum.depth ≤ Outline.nestingLimit
  inRange : datum.InRange

end Datum

/-! ## Numbers -/

/-- Decimal digits as text. -/
def digitsText (digits : List Nat) : List Char :=
  digits.map Nat.digitChar

/-- Decimal digits, at least one. -/
structure AreDigits (digits : List Nat) : Prop where
  nonempty : digits ≠ []
  small : ∀ digit ∈ digits, digit < 10

/-- How a fraction is spelled, if there is one. -/
inductive FractionSpelling : Option (List Nat) → List Char → Prop where
  | absent : FractionSpelling none []
  | present {digits : List Nat} (proper : AreDigits digits) :
      FractionSpelling (some digits) ('.' :: digitsText digits)

/-- How an exponent is spelled, if there is one. -/
inductive ExponentSpelling : Option Int → List Char → Prop where
  | absent : ExponentSpelling none []
  | unsigned {mark : Char} {digits : List Nat} (marked : mark = 'e' ∨ mark = 'E')
      (proper : AreDigits digits) :
      ExponentSpelling (some (ofDigits digits)) (mark :: digitsText digits)
  | plus {mark : Char} {digits : List Nat} (marked : mark = 'e' ∨ mark = 'E')
      (proper : AreDigits digits) :
      ExponentSpelling (some (ofDigits digits)) (mark :: '+' :: digitsText digits)
  | minus {mark : Char} {digits : List Nat} (marked : mark = 'e' ∨ mark = 'E')
      (proper : AreDigits digits) :
      ExponentSpelling (some (-(ofDigits digits : Int))) (mark :: '-' :: digitsText digits)

/-- How a number is spelled. Its whole part has no needless zero at its front. -/
inductive NumberSpelling : NumberParts → List Char → Prop where
  | intro {minus : Bool} {whole : List Nat} {fraction : Option (List Nat)} {exponent : Option Int}
      {fractionText exponentText : List Char} (proper : AreDigits whole)
      (trim : whole.head? = some 0 → whole = [0])
      (spelledFraction : FractionSpelling fraction fractionText)
      (spelledExponent : ExponentSpelling exponent exponentText) :
      NumberSpelling ⟨minus, whole, fraction, exponent⟩
        ((if minus then ['-'] else []) ++ (digitsText whole ++ (fractionText ++ exponentText)))

/-! ## Strings -/

/-- The letters that escape a character. -/
def escapeLetters : List (Char × Char) :=
  [('"', '"'), ('\\', '\\'), ('/', '/'), ('b', '\x08'), ('f', '\x0c'), ('n', '\n'), ('r', '\r'),
    ('t', '\t')]

/-- A hexadecimal digit, in lower or upper case. -/
def IsHexDigit (value : Nat) (digit : Char) : Prop :=
  value < 16 ∧ (digit = Nat.digitChar value ∨ digit = (Nat.digitChar value).toUpper)

/-- Four hexadecimal digits. -/
inductive HexSpelling : Nat → List Char → Prop where
  | intro {w x y z : Nat} {a b c d : Char} (first : IsHexDigit w a) (second : IsHexDigit x b)
      (third : IsHexDigit y c) (fourth : IsHexDigit z d) :
      HexSpelling (((w * 16 + x) * 16 + y) * 16 + z) [a, b, c, d]

/-- How a character is spelled inside quotes. -/
inductive CharSpelling : Char → List Char → Prop where
  | plain {c : Char} (printable : 32 ≤ c.toNat) (notQuote : c ≠ '"') (notBackslash : c ≠ '\\') :
      CharSpelling c [c]
  | letter {c letter : Char} (listed : (letter, c) ∈ escapeLetters) :
      CharSpelling c ['\\', letter]
  | code {c : Char} {word : List Char} (spelled : HexSpelling c.toNat word) :
      CharSpelling c ('\\' :: 'u' :: word)
  /-- A character beyond the first plane as two halves. -/
  | halves {c : Char} {leading trailing : Nat} {first second : List Char}
      (spelledFirst : HexSpelling leading first) (spelledSecond : HexSpelling trailing second)
      (leads : 0xD800 ≤ leading ∧ leading ≤ 0xDBFF)
      (trails : 0xDC00 ≤ trailing ∧ trailing ≤ 0xDFFF)
      (joined : c.toNat = 0x10000 + (leading - 0xD800) * 0x400 + (trailing - 0xDC00)) :
      CharSpelling c ('\\' :: 'u' :: first ++ '\\' :: 'u' :: second)

/-- How text is spelled inside quotes. -/
inductive TextSpelling : List Char → List Char → Prop where
  | nil : TextSpelling [] []
  | cons {c : Char} {text word words : List Char} (first : CharSpelling c word)
      (rest : TextSpelling text words) : TextSpelling (c :: text) (word ++ words)

/-! ## Tokens and texts -/

/-- How a token is spelled. -/
inductive TokenSpelling : Token → List Char → Prop where
  | openArray : TokenSpelling .openArray ['[']
  | closeArray : TokenSpelling .closeArray [']']
  | openObject : TokenSpelling .openObject ['\x7b']
  | closeObject : TokenSpelling .closeObject ['\x7d']
  | comma : TokenSpelling .comma [',']
  | colon : TokenSpelling .colon [':']
  | null : TokenSpelling .null "null".toList
  | bool (value : Bool) : TokenSpelling (.bool value) (boolText value)
  | number {parts : NumberParts} {word : List Char} (spelled : NumberSpelling parts word) :
      TokenSpelling (.number parts.value) word
  | quoted {text : String} {word : List Char} (spelled : TextSpelling text.toList word) :
      TokenSpelling (.quoted (.ok text)) ('"' :: (word ++ ['"']))

/-- Text of which JSON takes no notice between tokens. -/
def Space (gap : List Char) : Prop :=
  ∀ c ∈ gap, c ∈ [' ', '\n', '\r', '\t']

/-- Tokens stand in a text one after the other, with space around them. -/
inductive Layout : List Token → List Char → Prop where
  | nil {gap : List Char} (space : Space gap) : Layout [] gap
  | cons {gap word text : List Char} {token : Token} {tokens : List Token} (space : Space gap)
      (spelled : TokenSpelling token word) (rest : Layout tokens text) :
      Layout (token :: tokens) (gap ++ (word ++ text))

/-- A text says what a datum is. -/
def Spells (datum : Datum) (text : List Char) : Prop :=
  Layout datum.tokens text

end AppLifecycle.Json
