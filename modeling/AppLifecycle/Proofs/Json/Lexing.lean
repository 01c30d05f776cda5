import Mathlib.Data.List.Chain
import AppLifecycle.Proofs.Json.Spelling

/-!
# Cutting a text into its tokens

A text that is a layout of tokens is cut into these tokens again (`tokens_of_layout`). Where a
token ends shows by itself, save for numbers: they would go on with a digit, a point or an
exponent. In the tokens of a datum a number is followed by a comma or a closing bracket, if
anything.
-/

namespace AppLifecycle.Json

variable {chars rest word : List Char}

/-! ## Space -/

theorem isSpace_iff {c : Char} : isSpace c = true ↔ c ∈ [' ', '\n', '\r', '\t'] := by
  simp [isSpace, or_assoc]

theorem tokens_space {gap : List Char} (space : Space gap) (rest : List Char) :
    tokens (gap ++ rest) = tokens rest := by
  induction gap with
  | nil => rfl
  | cons c gap ih =>
      have blank : isSpace c = true := isSpace_iff.2 (space c (List.mem_cons_self ..))
      have later : Space gap := fun d member => space d (List.mem_cons_of_mem c member)
      rw [List.cons_append, tokens, if_pos blank, ih later]

theorem tokens_of_cut {c : Char} {token : Token} (solid : isSpace c = false)
    (cutOff : cut c chars = (token, some rest)) : tokens (c :: chars) = token :: tokens rest := by
  rw [tokens, solid, if_neg Bool.false_ne_true]
  split
  · rename_i found
    rw [cutOff] at found
    cases found
    rfl
  · rename_i found
    rw [cutOff] at found
    cases found

/-! ## Digits -/

theorem isDigit_digitChar {digit : Nat} (small : digit < 10) :
    (Nat.digitChar digit).isDigit = true := by
  have all : ∀ digit < 10, (Nat.digitChar digit).isDigit = true := by decide
  exact all digit small

theorem digitValue_digitChar {digit : Nat} (small : digit < 10) :
    digitValue (Nat.digitChar digit) = digit := by
  have all : ∀ digit < 10, digitValue (Nat.digitChar digit) = digit := by decide
  exact all digit small

/-- Text that digits in front of it do not run into. -/
def NoDigit (rest : List Char) : Prop :=
  ∀ c ∈ rest.head?, c.isDigit = false

/-- Text that a number in front of it does not run into. -/
def EndsNumber (rest : List Char) : Prop :=
  ∀ c ∈ rest.head?, c.isDigit = false ∧ c ≠ '.' ∧ c ≠ 'e' ∧ c ≠ 'E'

theorem EndsNumber.noDigit (ends : EndsNumber rest) : NoDigit rest :=
  fun c member => (ends c member).1

theorem takeDigits_append {digits : List Nat} (small : ∀ digit ∈ digits, digit < 10)
    (stop : NoDigit rest) : takeDigits (digitsText digits ++ rest) = (digits, rest) := by
  induction digits with
  | nil =>
      cases rest with
      | nil => rfl
      | cons c rest =>
          have other := stop c rfl
          simp [takeDigits, digitsText, other]
  | cons digit digits ih =>
      have first := small digit (List.mem_cons_self ..)
      have later := ih fun other member => small other (List.mem_cons_of_mem _ member)
      simp only [takeDigits, Prod.mk.injEq] at later
      simp only [takeDigits, digitsText, List.map_cons, List.cons_append, List.takeWhile_cons,
        List.dropWhile_cons, isDigit_digitChar first, if_true, digitValue_digitChar first,
        Prod.mk.injEq, List.cons.injEq, true_and]
      exact later

theorem takeDigits1_append {digits : List Nat} (proper : AreDigits digits)
    (stop : NoDigit rest) : takeDigits1 (digitsText digits ++ rest) = .ok (digits, rest) := by
  rw [takeDigits1, takeDigits_append proper.small stop]
  cases digits with
  | nil => exact absurd rfl proper.nonempty
  | cons digit digits => rfl

/-! ## Numbers -/

theorem takeWhole_append {digits : List Nat} (proper : AreDigits digits)
    (trim : digits.head? = some 0 → digits = [0]) (stop : NoDigit rest) :
    takeWhole (digitsText digits ++ rest) = .ok (digits, rest) := by
  rw [takeWhole, takeDigits1_append proper stop]
  split
  · rename_i found
    cases found
    cases trim rfl
  · rfl

theorem takeFraction_append {fraction : Option (List Nat)}
    (spelled : FractionSpelling fraction word) (stop : NoDigit rest)
    (noPoint : ∀ c ∈ rest.head?, c ≠ '.') :
    takeFraction (word ++ rest) = .ok (fraction, rest) := by
  cases spelled with
  | absent =>
      cases rest with
      | nil => rfl
      | cons c rest =>
          have other := noPoint c rfl
          rw [List.nil_append, takeFraction]
          rintro _ equal
          exact other (List.cons.inj equal).1
  | present proper =>
      rw [List.cons_append, takeFraction, takeDigits1_append proper stop]
      rfl

/-- Digits do not begin with a sign. -/
theorem not_sign_of_digits {digits : List Nat} (proper : AreDigits digits) {sign : Char}
    {chars rest : List Char} (signed : sign = '+' ∨ sign = '-') :
    digitsText digits ++ rest ≠ sign :: chars := by
  cases digits with
  | nil => exact absurd rfl proper.nonempty
  | cons digit digits =>
      intro equal
      have digital := isDigit_digitChar (proper.small digit (List.mem_cons_self ..))
      rw [(List.cons.inj equal).1] at digital
      rcases signed with rfl | rfl <;> contradiction

theorem takeSign_digits {digits : List Nat} (proper : AreDigits digits) (rest : List Char) :
    takeSign (digitsText digits ++ rest) = (false, digitsText digits ++ rest) := by
  unfold takeSign
  split
  · rename_i equal
    exact absurd equal (not_sign_of_digits proper (.inl rfl))
  · rename_i equal
    exact absurd equal (not_sign_of_digits proper (.inr rfl))
  · rfl

theorem takeExponent_append {exponent : Option Int} (spelled : ExponentSpelling exponent word)
    (ends : EndsNumber rest) : takeExponent (word ++ rest) = .ok (exponent, rest) := by
  cases spelled with
  | absent =>
      cases rest with
      | nil => rfl
      | cons c rest =>
          obtain ⟨-, -, lower, upper⟩ := ends c rfl
          simp [takeExponent, lower, upper]
  | unsigned marked proper =>
      simp only [List.cons_append, takeExponent, if_pos marked, takeSign_digits proper,
        takeDigits1_append proper ends.noDigit]
      rfl
  | plus marked proper =>
      simp only [List.cons_append, takeExponent, if_pos marked, takeSign,
        takeDigits1_append proper ends.noDigit]
      rfl
  | minus marked proper =>
      simp only [List.cons_append, takeExponent, if_pos marked, takeSign,
        takeDigits1_append proper ends.noDigit]
      rfl

/-- What follows the whole part of a number does not begin with a digit. -/
theorem noDigit_of_spelling {fraction : Option (List Nat)} {exponent : Option Int}
    {fractionText exponentText : List Char}
    (spelledFraction : FractionSpelling fraction fractionText)
    (spelledExponent : ExponentSpelling exponent exponentText) (ends : EndsNumber rest) :
    NoDigit (fractionText ++ (exponentText ++ rest)) ∧ NoDigit (exponentText ++ rest) ∧
      ∀ c ∈ (exponentText ++ rest).head?, c ≠ '.' := by
  have mark : NoDigit (exponentText ++ rest) ∧ ∀ c ∈ (exponentText ++ rest).head?, c ≠ '.' := by
    cases spelledExponent with
    | absent => exact ⟨ends.noDigit, fun c member => (ends c member).2.1⟩
    | unsigned marked | plus marked | minus marked =>
        rcases marked with rfl | rfl <;> simp [NoDigit]
  refine ⟨?_, mark⟩
  cases spelledFraction with
  | absent => exact mark.1
  | present => simp [NoDigit]

theorem takeNumber_append {parts : NumberParts} (spelled : NumberSpelling parts word)
    (ends : EndsNumber rest) : takeNumber (word ++ rest) = .ok (parts, rest) := by
  cases spelled with
  | @intro minus whole fraction exponent fractionText exponentText proper trim spelledFraction
      spelledExponent =>
    obtain ⟨afterWhole, afterFraction, noPoint⟩ :=
      noDigit_of_spelling spelledFraction spelledExponent ends
    have first := takeWhole_append proper trim afterWhole
    have second := takeFraction_append spelledFraction afterFraction noPoint
    have third := takeExponent_append spelledExponent ends
    cases minus with
    | true =>
        simp only [if_true, List.cons_append, List.nil_append, List.append_assoc, takeNumber,
          first, second, third, bind, Except.bind]
        rfl
    | false =>
        simp only [Bool.false_eq_true, if_false, List.append_assoc, List.nil_append, takeNumber]
        split
        · rename_i equal
          exact absurd equal (not_sign_of_digits proper (.inr rfl))
        · simp only [first, second, third, bind, Except.bind]
          rfl

/-! ## Strings -/

theorem hexValue?_of_isHexDigit {value : Nat} {digit : Char} (hex : IsHexDigit value digit) :
    hexValue? digit = some value := by
  have all : ∀ value < 16, hexValue? (Nat.digitChar value) = some value ∧
      hexValue? (Nat.digitChar value).toUpper = some value := by decide
  obtain ⟨small, rfl | rfl⟩ := hex
  · exact (all value small).1
  · exact (all value small).2

theorem unescape?_of_listed {c letter : Char} (listed : (letter, c) ∈ escapeLetters) :
    letter ≠ 'u' ∧ unescape? letter = some c := by
  have all : ∀ pair ∈ escapeLetters, pair.1 ≠ 'u' ∧ unescape? pair.1 = some pair.2 := by decide
  exact all _ listed

/-- Four digits are spelled by four characters. -/
theorem HexSpelling.four {code : Nat} (spelled : HexSpelling code word) :
    ∃ a b c d, word = [a, b, c, d] ∧ hexWord? a b c d = some code := by
  cases spelled with
  | intro first second third fourth =>
      refine ⟨_, _, _, _, rfl, ?_⟩
      simp [hexWord?, hexValue?_of_isHexDigit first, hexValue?_of_isHexDigit second,
        hexValue?_of_isHexDigit third, hexValue?_of_isHexDigit fourth]

/-- A character is spelled by no half alone. -/
theorem not_half (c : Char) : isTrailingHalf c.toNat = false ∧ isLeadingHalf c.toNat = false := by
  have valid := c.valid
  simp only [UInt32.isValidChar, Nat.isValidChar] at valid
  have value : c.toNat = c.val.toNat := rfl
  constructor
  · simp only [isTrailingHalf, Bool.and_eq_false_iff, decide_eq_false_iff_not]
    omega
  · simp only [isLeadingHalf, Bool.and_eq_false_iff, decide_eq_false_iff_not]
    omega

/-- A spelled character is read. -/
theorem readQuoted_char {c : Char} (spelled : CharSpelling c word) (rest : List Char) :
    readQuoted (word ++ rest) = consChar c (readQuoted rest) := by
  cases spelled with
  | plain printable notQuote notBackslash =>
      rw [List.singleton_append, readQuoted]
      · exact if_neg (Nat.not_lt.2 printable)
      · exact notQuote
      · exact notBackslash
  | letter listed =>
      obtain ⟨notCode, named⟩ := unescape?_of_listed listed
      simp [readQuoted, named]
  | code spelled =>
      obtain ⟨a, b, d, e, rfl, code⟩ := spelled.four
      obtain ⟨notTrailing, notLeading⟩ := not_half c
      simp [readQuoted, code, notTrailing, notLeading]
  | @halves leading trailing _ _ spelledFirst spelledSecond leads trails joined =>
      obtain ⟨a, b, d, e, rfl, first⟩ := spelledFirst.four
      obtain ⟨f, g, h, i, rfl, second⟩ := spelledSecond.four
      have notTrailing : isTrailingHalf leading = false := by
        simp only [isTrailingHalf, Bool.and_eq_false_iff, decide_eq_false_iff_not]
        omega
      have leadingHalf : isLeadingHalf leading = true := by
        simpa [isLeadingHalf] using leads
      have trailingHalf : isTrailingHalf trailing = true := by
        simpa [isTrailingHalf] using trails
      have whole : joinHalves leading trailing = c := by
        rw [joinHalves, ← joined, Char.ofNat_toNat]
      simp [readQuoted, first, second, notTrailing, leadingHalf, trailingHalf, whole]

/-- A spelled character is skipped. -/
theorem skipQuoted_char {c : Char} (spelled : CharSpelling c word) (rest : List Char) :
    skipQuoted (word ++ rest) = skipQuoted rest := by
  cases spelled with
  | plain printable notQuote notBackslash =>
      rw [List.singleton_append, skipQuoted]
      · exact if_neg (Nat.not_lt.2 printable)
      · exact notQuote
      · exact notBackslash
  | letter listed =>
      obtain ⟨notCode, named⟩ := unescape?_of_listed listed
      simp [skipQuoted, named]
  | code spelled =>
      obtain ⟨a, b, d, e, rfl, code⟩ := spelled.four
      simp [skipQuoted, code]
  | halves spelledFirst spelledSecond =>
      obtain ⟨a, b, d, e, rfl, first⟩ := spelledFirst.four
      obtain ⟨f, g, h, i, rfl, second⟩ := spelledSecond.four
      simp [skipQuoted, first, second]

theorem readQuoted_text {text : List Char} (spelled : TextSpelling text word)
    (rest : List Char) : readQuoted (word ++ '"' :: rest) = .ok (text, rest) := by
  induction spelled with
  | nil => rfl
  | cons first _ ih =>
      rw [List.append_assoc, readQuoted_char first, ih]
      rfl

theorem skipQuoted_text {text : List Char} (spelled : TextSpelling text word)
    (rest : List Char) : skipQuoted (word ++ '"' :: rest) = .ok rest := by
  induction spelled with
  | nil => rfl
  | cons first _ ih => rw [List.append_assoc, skipQuoted_char first, ih]

theorem cutString_text {text : String} (spelled : TextSpelling text.toList word)
    (rest : List Char) :
    cutString (word ++ '"' :: rest) = (.quoted (.ok text), some rest) := by
  rw [cutString, skipQuoted_text spelled, quotedText, readQuoted_text spelled]
  simp [Except.map]

/-! ## Tokens -/

/-- A number begins with a sign or a digit. -/
theorem NumberSpelling.numeral {parts : NumberParts} (spelled : NumberSpelling parts word) :
    ∃ c chars, word = c :: chars ∧ (c = '-' ∨ c.isDigit = true) := by
  cases spelled with
  | @intro minus whole _ _ _ _ proper =>
    cases minus with
    | true => exact ⟨'-', _, rfl, .inl rfl⟩
    | false =>
        cases whole with
        | nil => exact absurd rfl proper.nonempty
        | cons digit digits =>
            have small := proper.small digit (List.mem_cons_self ..)
            exact ⟨_, _, rfl, .inr (isDigit_digitChar small)⟩

/-- No other token begins with a sign or a digit. -/
theorem cut_numeral {c : Char} (numeral : c = '-' ∨ c.isDigit = true) (chars : List Char) :
    isSpace c = false ∧ cut c chars = cutNumber (c :: chars) := by
  have other (d : Char) (plain : d ≠ '-' ∧ d.isDigit = false) : c ≠ d := by
    rintro rfl
    rcases numeral with sign | digit
    · exact plain.1 sign
    · rw [plain.2] at digit
      contradiction
  have distinct : ∀ d ∈ "[]\x7b\x7d,:\"ntf \n\r\t".toList, c ≠ d := by
    intro d member
    apply other
    revert d
    simp
  simp at distinct
  constructor
  · simp [isSpace, distinct]
  · simp [cut, punctuation?, distinct, numeral]

theorem tokens_number {parts : NumberParts} (spelled : NumberSpelling parts word)
    (ends : EndsNumber rest) : tokens (word ++ rest) = .number parts.value :: tokens rest := by
  have number := takeNumber_append spelled ends
  obtain ⟨c, chars, rfl, numeral⟩ := spelled.numeral
  obtain ⟨solid, cutOff⟩ := cut_numeral numeral (chars ++ rest)
  apply tokens_of_cut solid
  apply cutOff.trans
  rw [cutNumber, ← List.cons_append, number]

/-- A token that a number does not run into. -/
def Token.endsNumber : Token → Bool
  | comma | closeArray | closeObject => true
  | _ => false

/-- The second token may follow the first. -/
def Token.MayFollow (first second : Token) : Prop :=
  (∃ value, first = .number value) → second.endsNumber = true

/-- A spelled token is cut off, if a number is not run into. -/
theorem tokens_token {token : Token} (spelled : TokenSpelling token word)
    (ends : (∃ value, token = .number value) → EndsNumber rest) :
    tokens (word ++ rest) = token :: tokens rest := by
  cases spelled with
  | openArray | closeArray | openObject | closeObject | comma | colon =>
      exact tokens_of_cut rfl rfl
  | null => exact tokens_of_cut rfl rfl
  | bool value => cases value <;> exact tokens_of_cut rfl rfl
  | number spelled => exact tokens_number spelled (ends ⟨_, rfl⟩)
  | quoted spelled =>
      have cutOff := cutString_text spelled rest
      rw [List.cons_append, List.append_assoc, List.singleton_append]
      exact tokens_of_cut rfl cutOff

/-- A number does not run into a layout whose first token it may precede. -/
theorem Layout.endsNumber {tokens : List Token} {text : List Char} (layout : Layout tokens text)
    (first : ∀ token ∈ tokens.head?, token.endsNumber = true) : EndsNumber text := by
  have blank : ∀ c ∈ [' ', '\n', '\r', '\t'],
      c.isDigit = false ∧ c ≠ '.' ∧ c ≠ 'e' ∧ c ≠ 'E' := by
    simp
  cases layout with
  | @nil gap space =>
      intro c member
      exact blank c (space c (List.mem_of_head? member))
  | @cons gap word text token tokens space spelled rest =>
      have closing := first token rfl
      cases gap with
      | cons c gap =>
          rintro d ⟨⟩
          exact blank c (space c (List.mem_cons_self ..))
      | nil =>
          intro c member
          cases spelled with
          | comma | closeArray | closeObject =>
              cases member
              decide
          | _ => cases closing

/-- A layout is cut into its tokens. -/
theorem tokens_of_layout {spelled : List Token} {text : List Char} (layout : Layout spelled text)
    (chain : spelled.IsChain Token.MayFollow) : tokens text = spelled := by
  induction layout with
  | @nil gap space =>
      have all := tokens_space space []
      rw [List.append_nil] at all
      rw [all, tokens]
  | @cons gap word text token following space spelled layout ih =>
      obtain ⟨follows, later⟩ := List.isChain_cons.1 chain
      rw [tokens_space space, tokens_token spelled, ih later]
      intro number
      apply layout.endsNumber
      intro next member
      exact follows next member number

/-! ## The tokens of a datum -/

section Chain

variable {opening closing : Token} {first second : List Token}

theorem Token.mayFollow_of_closing (closes : closing.endsNumber = true) (token : Token) :
    token.MayFollow closing :=
  fun _ => closes

/-- Tokens that may follow one another still may with a closing one between them. -/
theorem chain_between (left : first.IsChain Token.MayFollow) (closes : closing.endsNumber = true)
    (right : (closing :: second).IsChain Token.MayFollow) :
    (first ++ closing :: second).IsChain Token.MayFollow := by
  apply left.append right
  rintro token _ _ ⟨⟩
  exact Token.mayFollow_of_closing closes token

theorem chain_after (opens : ∀ value, opening ≠ .number value)
    (inner : second.IsChain Token.MayFollow) :
    (opening :: second).IsChain Token.MayFollow := by
  apply List.isChain_cons.2 ⟨?_, inner⟩
  rintro token _ ⟨value, number⟩
  exact absurd number (opens value)

theorem chain_enclosed (opens : ∀ value, opening ≠ .number value)
    (inner : second.IsChain Token.MayFollow) (closes : closing.endsNumber = true) :
    (opening :: second ++ [closing]).IsChain Token.MayFollow :=
  chain_between (chain_after opens inner) closes (.singleton closing)

end Chain

namespace Datum

mutual

theorem chain_tokens (datum : Datum) : datum.tokens.IsChain Token.MayFollow := by
  cases datum with
  | null | bool | number | string => exact .singleton _
  | array items => exact chain_enclosed nofun (chain_itemTokens items) rfl
  | object members => exact chain_enclosed nofun (chain_memberTokens members) rfl

theorem chain_itemTokens (items : List Datum) :
    (itemTokens items).IsChain Token.MayFollow := by
  match items with
  | [] => exact .nil
  | [item] => exact chain_tokens item
  | item :: next :: rest =>
      have later : (Token.comma :: itemTokens (next :: rest)).IsChain Token.MayFollow :=
        chain_after nofun (chain_itemTokens (next :: rest))
      exact chain_between (chain_tokens item) rfl later

theorem chain_memberTokens (members : List (String × Datum)) :
    (memberTokens members).IsChain Token.MayFollow := by
  match members with
  | [] => exact .nil
  | [(key, value)] => exact chain_after nofun (chain_after nofun (chain_tokens value))
  | (key, value) :: next :: rest =>
      have later : (Token.comma :: memberTokens (next :: rest)).IsChain Token.MayFollow :=
        chain_after nofun (chain_memberTokens (next :: rest))
      have value := chain_between (chain_tokens value) rfl later
      exact chain_after nofun (chain_after nofun value)

end

/-- The tokens of a text are those of the datum that it spells. -/
theorem tokens_of_spells {datum : Datum} {text : List Char} (spells : Spells datum text) :
    Json.tokens text = datum.tokens :=
  tokens_of_layout spells datum.chain_tokens

end Datum

end AppLifecycle.Json
