import AppLifecycle.Proofs.Json.Parsing

/-!
# Space behind a text

Space behind a text does not change what the text says: each token is cut off as without it, or
goes wrong both times (`tokens_append_space`). A choice that can be read from the text can be read
with space behind it, with the same result, and the other way round
(`readDocument_choice_stable`). Only the reason why a text cannot be read may be another one.
-/

namespace AppLifecycle.Json

variable {α β ε : Type} {space c : Char} {chars rest : List Char}

/-- What goes right the first time does so the second time, and comes to something else that is
known; what goes wrong goes wrong both times. -/
inductive Stable (change : α → α) : Except ε α → Except ε α → Prop where
  | found (value : α) : Stable change (.ok value) (.ok (change value))
  | lost (why later : ε) : Stable change (.error why) (.error later)

namespace Stable

variable {change : α → α} {changeNext : β → β} {first second : Except ε α}
  (stable : Stable change first second)
include stable

theorem bind {next : α → Except ε β}
    (nextStable : ∀ value, Stable changeNext (next value) (next (change value))) :
    Stable changeNext (first >>= next) (second >>= next) := by
  cases stable with
  | found value => exact nextStable value
  | lost why later => exact .lost why later

theorem map {image : α → β} (commutes : ∀ value, image (change value) = changeNext (image value)) :
    Stable changeNext (first.map image) (second.map image) := by
  cases stable with
  | found value =>
      simp only [Except.map, commutes]
      exact .found _
  | lost why later => exact .lost why later

end Stable

/-- What was found in a text, with one more character behind it. -/
def leave (space : Char) (found : α × List Char) : α × List Char :=
  (found.1, found.2 ++ [space])

/-! ## Numbers -/

/-- Reads the parts of a number whose sign is known. -/
def takeUnsigned (minus : Bool) (unsigned : List Char) :
    Except Fault (NumberParts × List Char) := do
  let (whole, rest) ← takeWhole unsigned
  let (fraction, rest) ← takeFraction rest
  let (exponent, rest) ← takeExponent rest
  return (⟨minus, whole, fraction, exponent⟩, rest)

section Space

variable (blank : isSpace space = true)
include blank

theorem isSpace_cases : space = ' ' ∨ space = '\n' ∨ space = '\r' ∨ space = '\t' := by
  simpa using isSpace_iff.1 blank

theorem isDigit_of_isSpace : space.isDigit = false := by
  rcases isSpace_cases blank with rfl | rfl | rfl | rfl <;> rfl

theorem takeDigits_append_space (chars : List Char) :
    takeDigits (chars ++ [space]) = leave space (takeDigits chars) := by
  induction chars with
  | nil => simp [takeDigits, leave, isDigit_of_isSpace blank]
  | cons c chars ih =>
      simp only [takeDigits, leave, Prod.mk.injEq] at ih ⊢
      cases digit : c.isDigit with
      | true => simpa [digit] using ih
      | false => simp [digit]

theorem takeDigits1_stable (chars : List Char) :
    Stable (leave space) (takeDigits1 chars) (takeDigits1 (chars ++ [space])) := by
  rw [takeDigits1, takeDigits1, takeDigits_append_space blank]
  rcases takeDigits chars with ⟨_ | ⟨digit, digits⟩, rest⟩
  · exact .lost _ _
  · exact .found (digit :: digits, rest)

theorem takeWhole_stable (chars : List Char) :
    Stable (leave space) (takeWhole chars) (takeWhole (chars ++ [space])) := by
  rw [takeWhole, takeWhole]
  have stable := takeDigits1_stable blank chars
  generalize takeDigits1 chars = alone, takeDigits1 (chars ++ [space]) = followed at stable ⊢
  cases stable with
  | found value =>
      rcases value with ⟨_ | ⟨_ | leading, _ | ⟨digit, digits⟩⟩, rest⟩
      · exact .found _
      · exact .found _
      · exact .lost _ _
      · exact .found _
      · exact .found _
  | lost why later => exact .lost why later

theorem takeFraction_stable (chars : List Char) :
    Stable (leave space) (takeFraction chars) (takeFraction (chars ++ [space])) := by
  cases chars with
  | nil => rcases isSpace_cases blank with rfl | rfl | rfl | rfl <;> exact .found (none, [])
  | cons c chars =>
      by_cases point : c = '.'
      · subst point
        exact (takeDigits1_stable blank chars).map fun _ => rfl
      · have absent (rest : List Char) : takeFraction (c :: rest) = .ok (none, c :: rest) := by
          rw [takeFraction]
          rintro _ equal
          exact point (List.cons.inj equal).1
        rw [List.cons_append, absent, absent]
        exact .found (none, c :: chars)

theorem takeSign_append_space (chars : List Char) :
    takeSign (chars ++ [space]) = leave space (takeSign chars) := by
  cases chars with
  | nil => rcases isSpace_cases blank with rfl | rfl | rfl | rfl <;> rfl
  | cons c chars =>
      by_cases plus : c = '+'
      · subst plus
        rfl
      by_cases minus : c = '-'
      · subst minus
        rfl
      have unsigned (rest : List Char) : takeSign (c :: rest) = (false, c :: rest) := by
        rw [takeSign]
        · rintro _ equal
          exact plus (List.cons.inj equal).1
        · rintro _ equal
          exact minus (List.cons.inj equal).1
      rw [List.cons_append, unsigned, unsigned]
      rfl

theorem takeExponent_stable (chars : List Char) :
    Stable (leave space) (takeExponent chars) (takeExponent (chars ++ [space])) := by
  cases chars with
  | nil => rcases isSpace_cases blank with rfl | rfl | rfl | rfl <;> exact .found (none, [])
  | cons c chars =>
      simp only [List.cons_append, takeExponent, takeSign_append_space blank]
      split
      · exact (takeDigits1_stable blank (takeSign chars).2).map fun _ => rfl
      · exact .found (none, c :: chars)

omit blank in
theorem takeNumber_of_unsigned (unsigned : c ≠ '-') (rest : List Char) :
    takeNumber (c :: rest) = takeUnsigned false (c :: rest) := by
  unfold takeNumber
  split
  rename_i minus digits signed
  split at signed
  · rename_i equal
    exact absurd (List.cons.inj equal).1 unsigned
  · cases signed
    rfl

theorem takeUnsigned_stable (minus : Bool) (unsigned : List Char) :
    Stable (leave space) (takeUnsigned minus unsigned)
      (takeUnsigned minus (unsigned ++ [space])) := by
  apply (takeWhole_stable blank unsigned).bind
  rintro ⟨whole, rest⟩
  apply (takeFraction_stable blank rest).bind
  rintro ⟨fraction, rest⟩
  apply (takeExponent_stable blank rest).bind
  rintro ⟨exponent, rest⟩
  exact .found _

theorem takeNumber_stable (chars : List Char) :
    Stable (leave space) (takeNumber chars) (takeNumber (chars ++ [space])) := by
  cases chars with
  | nil => rcases isSpace_cases blank with rfl | rfl | rfl | rfl <;> exact .lost _ _
  | cons c chars =>
      by_cases minus : c = '-'
      · subst minus
        exact takeUnsigned_stable blank true chars
      · rw [List.cons_append, takeNumber_of_unsigned minus, takeNumber_of_unsigned minus]
        exact takeUnsigned_stable blank false (c :: chars)

/-! ## Literals and strings -/

omit blank in
theorem takeLetters_stable (letters chars : List Char) (other : space ∉ letters) :
    Stable (· ++ [space]) (takeLetters letters chars) (takeLetters letters (chars ++ [space])) := by
  fun_induction takeLetters letters chars with
  | case1 rest => exact .found rest
  | case2 due letters =>
      have different : space ≠ due := fun same => other (same ▸ List.mem_cons_self)
      simp only [List.nil_append, takeLetters, if_neg different]
      exact .lost _ _
  | case3 due letters rest ih =>
      simp only [List.cons_append, takeLetters, if_true]
      exact ih fun member => other (List.mem_cons_of_mem _ member)
  | case4 due letters c rest different =>
      simp only [List.cons_append, takeLetters, if_neg different]
      exact .lost _ _

theorem skipQuoted_stable (chars : List Char) :
    Stable (· ++ [space]) (skipQuoted chars) (skipQuoted (chars ++ [space])) := by
  have noHex : hexValue? space = none := by
    rcases isSpace_cases blank with rfl | rfl | rfl | rfl <;> rfl
  fun_induction skipQuoted chars with
  | case1 => rcases isSpace_cases blank with rfl | rfl | rfl | rfl <;> exact .lost _ _
  | case2 rest => exact .found rest
  | case3 => rcases isSpace_cases blank with rfl | rfl | rfl | rfl <;> exact .lost _ _
  | case4 a b c d rest hex ih =>
      simp only [List.cons_append, skipQuoted, if_pos hex]
      exact ih
  | case5 a b c d rest noHex =>
      simp only [List.cons_append, skipQuoted, if_neg noHex]
      exact .lost _ _
  | case6 short few =>
      rcases short with _ | ⟨a, _ | ⟨b, _ | ⟨c, _ | ⟨d, rest⟩⟩⟩⟩
      · exact .lost _ _
      · exact .lost _ _
      · exact .lost _ _
      · have noWord : hexWord? a b c space = none := by simp [hexWord?, noHex]
        simp only [List.cons_append, List.nil_append, skipQuoted, noWord]
        exact .lost _ _
      · exact absurd rfl (few a b c d rest)
  | case7 letter rest noWord known ih =>
      rw [List.cons_append, List.cons_append, skipQuoted, if_pos known]
      · exact ih
      · exact noWord
  | case8 letter rest noWord unknown =>
      rw [List.cons_append, List.cons_append, skipQuoted, if_neg unknown]
      · exact .lost _ _
      · exact noWord
  | case9 c rest noQuote noEscape control =>
      rw [List.cons_append, skipQuoted, if_pos control]
      · exact .lost _ _
      · exact noQuote
      · exact noEscape
  | case10 c rest noQuote noEscape printable ih =>
      rw [List.cons_append, skipQuoted, if_neg printable]
      · exact ih
      · exact noQuote
      · exact noEscape

end Space

theorem consChar_map (c : Char) (text : QuotedText) (more : List Char) :
    consChar c (text.map fun read => (read.1, read.2 ++ more)) =
      (consChar c text).map fun read => (read.1, read.2 ++ more) := by
  cases text <;> rfl

/-- What follows the closing quote does not matter to the text before it. -/
theorem readQuoted_append {rest : List Char} (skipped : skipQuoted chars = .ok rest)
    (more : List Char) :
    readQuoted (chars ++ more) =
      (readQuoted chars).map fun read => (read.1, read.2 ++ more) := by
  fun_induction readQuoted chars with
  | case1 => cases skipped
  | case2 rest => rfl
  | case3 => cases skipped
  | case4 a b c d rest noHex =>
      simp only [List.cons_append, readQuoted, noHex]
      rfl
  | case5 a b c d rest word hex trailing =>
      simp only [List.cons_append, readQuoted, hex, if_pos trailing]
      rfl
  | case6 a b c d word hex notTrailing leading => simp [skipQuoted, hex] at skipped
  | case7 a b c d word hex notTrailing leading => simp [skipQuoted, hex] at skipped
  | case8 a b c d word hex notTrailing leading e f g h rest noHex =>
      simp only [List.cons_append, readQuoted, hex, if_neg notTrailing, if_pos leading, noHex]
      rfl
  | case9 a b c d word hex notTrailing leading e f g h rest second hexSecond trailing ih =>
      simp only [skipQuoted, hex, hexSecond, Option.isSome_some, if_true] at skipped
      simp only [List.cons_append, readQuoted, hex, if_neg notTrailing, if_pos leading, hexSecond,
        if_pos trailing, ih skipped, consChar_map]
  | case10 a b c d word hex notTrailing leading e f g h rest second hexSecond noPair =>
      simp only [List.cons_append, readQuoted, hex, if_neg notTrailing, if_pos leading, hexSecond,
        if_neg noPair]
      rfl
  | case11 a b c d word hex notTrailing leading short few =>
      simp [skipQuoted, hex] at skipped
  | case12 a b c d rest word hex notTrailing leading notEmpty notEscape notWord =>
      have falls (due : List Char) (notEmpty : due ≠ []) (notEscape : due ≠ ['\\'])
          (notWord : ∀ digits, due ≠ '\\' :: 'u' :: digits) :
          readQuoted ('\\' :: 'u' :: a :: b :: c :: d :: due) = .error .malformed := by
        simp only [readQuoted, hex, if_neg notTrailing, if_pos leading]
      have later : readQuoted ('\\' :: 'u' :: a :: b :: c :: d :: (rest ++ more)) =
          .error .malformed := by
        rcases rest with _ | ⟨first, _ | ⟨second, rest⟩⟩
        · exact (notEmpty rfl).elim
        · have solid : first ≠ '\\' := fun same => notEscape (same ▸ rfl)
          exact falls _ (List.cons_ne_nil _ _) (by simp [solid]) (by simp [solid])
        · have apart : first = '\\' → second ≠ 'u' := by
            rintro rfl rfl
            exact notWord rest rfl
          exact falls _ (List.cons_ne_nil _ _) (by simp) (by simpa using fun same => apart same)
      simp only [List.cons_append, later]
      rfl
  | case13 a b c d rest word hex notTrailing notLeading ih =>
      simp only [skipQuoted, hex, Option.isSome_some, if_true] at skipped
      simp only [List.cons_append, readQuoted, hex, if_neg notTrailing, if_neg notLeading,
        ih skipped, consChar_map]
  | case14 short few => simp [skipQuoted] at skipped
  | case15 letter rest noWord c known ih =>
      rw [skipQuoted, known] at skipped
      · rw [List.cons_append, List.cons_append, readQuoted, known]
        · simp only [ih skipped, consChar_map]
        · exact noWord
      · exact noWord
  | case16 letter rest noWord unknown =>
      rw [List.cons_append, List.cons_append, readQuoted, unknown]
      · rfl
      · exact noWord
  | case17 c rest noQuote noEscape control =>
      rw [List.cons_append, readQuoted, if_pos control]
      · rfl
      · exact noQuote
      · exact noEscape
  | case18 c rest noQuote noEscape printable ih =>
      rw [skipQuoted, if_neg printable] at skipped
      · rw [List.cons_append, readQuoted, if_neg printable]
        · rw [ih skipped, consChar_map]
        · exact noQuote
        · exact noEscape
      · exact noQuote
      · exact noEscape

theorem quotedText_append {rest : List Char} (skipped : skipQuoted chars = .ok rest)
    (more : List Char) : quotedText (chars ++ more) = quotedText chars := by
  rw [quotedText, quotedText, readQuoted_append skipped]
  cases readQuoted chars <;> rfl

/-! ## Tokens -/

/-- Whether the token goes wrong. -/
def Token.isBroken : Token → Bool
  | brokenScalar _ | brokenString _ | stray => true
  | _ => false

/-- The same token is cut off, or the token goes wrong both times. -/
inductive CutStable (space : Char) : Cut → Cut → Prop where
  | whole (token : Token) (rest : List Char) :
      CutStable space (token, some rest) (token, some (rest ++ [space]))
  | broken {token later : Token} (broken : token.isBroken = true)
      (brokenLater : later.isBroken = true) : CutStable space (token, none) (later, none)

section Cut

variable (blank : isSpace space = true)
include blank

omit blank in
theorem cutLiteral_stable (letters : List Char) (token : Token) (chars : List Char)
    (other : space ∉ letters) :
    CutStable space (cutLiteral letters token chars)
      (cutLiteral letters token (chars ++ [space])) := by
  have stable := takeLetters_stable letters chars other
  rw [cutLiteral, cutLiteral]
  generalize takeLetters letters chars = first,
    takeLetters letters (chars ++ [space]) = second at stable ⊢
  cases stable with
  | found rest => exact .whole token rest
  | lost why later => exact .broken rfl rfl

theorem cutNumber_stable (chars : List Char) :
    CutStable space (cutNumber chars) (cutNumber (chars ++ [space])) := by
  have stable := takeNumber_stable blank chars
  rw [cutNumber, cutNumber]
  generalize takeNumber chars = first, takeNumber (chars ++ [space]) = second at stable ⊢
  cases stable with
  | found number => exact .whole (.number number.1.value) number.2
  | lost why later => exact .broken rfl rfl

theorem cutString_stable (chars : List Char) :
    CutStable space (cutString chars) (cutString (chars ++ [space])) := by
  have stable := skipQuoted_stable blank chars
  have same := @quotedText_append chars
  rw [cutString, cutString]
  generalize skipQuoted chars = first, skipQuoted (chars ++ [space]) = second at stable same ⊢
  cases stable with
  | found rest =>
      simp only [same rfl]
      exact .whole _ rest
  | lost why later =>
      cases quotedText chars <;> cases quotedText (chars ++ [space]) <;> exact .broken rfl rfl

theorem cut_stable (c : Char) (chars : List Char) :
    CutStable space (cut c chars) (cut c (chars ++ [space])) := by
  have noLetter : space ∉ "ull".toList ∧ space ∉ "rue".toList ∧ space ∉ "alse".toList := by
    rcases isSpace_cases blank with rfl | rfl | rfl | rfl <;> decide
  unfold cut
  split
  · exact .whole _ chars
  split
  · exact cutString_stable blank chars
  split
  · exact cutLiteral_stable _ _ chars noLetter.1
  split
  · exact cutLiteral_stable _ _ chars noLetter.2.1
  split
  · exact cutLiteral_stable _ _ chars noLetter.2.2
  split
  · exact cutNumber_stable blank (c :: chars)
  · exact .broken rfl rfl

end Cut

/-- The same tokens, or the same up to the last one, which goes wrong both times. -/
inductive TokensStable : List Token → List Token → Prop where
  | same (all : List Token) : TokensStable all all
  | broken (whole : List Token) {token later : Token} (broken : token.isBroken = true)
      (brokenLater : later.isBroken = true) :
      TokensStable (whole ++ [token]) (whole ++ [later])

theorem TokensStable.cons {first second : List Token} (stable : TokensStable first second)
    (token : Token) : TokensStable (token :: first) (token :: second) := by
  cases stable with
  | same => exact .same (token :: first)
  | broken whole broken brokenLater => exact .broken (token :: whole) broken brokenLater

theorem tokens_of_broken_cut {token : Token} (solid : isSpace c = false)
    (cutOff : cut c chars = (token, none)) : tokens (c :: chars) = [token] := by
  rw [tokens, solid, if_neg Bool.false_ne_true]
  split
  · rename_i found
    rw [cutOff] at found
    cases found
  · rename_i found
    rw [cutOff] at found
    cases found
    rfl

/-- Space behind a text leaves its tokens as they are, but for what goes wrong with the last. -/
theorem tokens_append_space (blank : isSpace space = true) (text : List Char) :
    TokensStable (tokens text) (tokens (text ++ [space])) := by
  fun_induction tokens text with
  | case1 =>
      rw [List.nil_append, tokens, if_pos blank, tokens]
      exact .same []
  | case2 c chars spaced ih =>
      rw [List.cons_append, tokens, if_pos spaced]
      exact ih
  | case3 c chars solid token rest cutOff ih =>
      have stable := cut_stable blank c chars
      rw [cutOff] at stable
      generalize cutLater : cut c (chars ++ [space]) = later at stable
      cases stable with
      | whole =>
          rw [List.cons_append, tokens_of_cut (by simpa using solid) cutLater]
          exact ih.cons token
  | case4 c chars solid token cutOff =>
      have stable := cut_stable blank c chars
      rw [cutOff] at stable
      generalize cutLater : cut c (chars ++ [space]) = later at stable
      cases stable with
      | broken broken brokenLater =>
          rw [List.cons_append, tokens_of_broken_cut (by simpa using solid) cutLater]
          exact .broken [] broken brokenLater

/-! ## Documents -/

/-- Whether the text breaks off within the outermost value or its beginning. -/
def Outline.isCut : Outline → Bool
  | missing _ | brokenScalar _ | brokenString _ | array _ (some _) | object _ (some _) => true
  | _ => false

namespace Position

variable {position : Position} {token : Token} {value : Outline}

theorem isCut_breakOff (fault : Fault) (cut : value.isCut = true) (frames : List Frame) :
    (breakOff fault value frames).isCut = true := by
  induction frames generalizing value with
  | nil => exact cut
  | cons frame frames ih =>
      cases frame with
      | array done => exact ih rfl
      | member done key => exact ih rfl

/-- Where a token does not fit, the text breaks off. -/
theorem isCut_of_next (unfinished : position.isFinished = false)
    (stops : position.next token = .error value) : value.isCut = true := by
  cases position with
  | finished => contradiction
  | _ => cases token <;> cases stops <;> exact isCut_breakOff _ rfl _

/-- A token that goes wrong fits nowhere. -/
theorem next_of_broken (unfinished : position.isFinished = false)
    (broken : token.isBroken = true) : ∃ value, position.next token = .error value := by
  cases position with
  | finished => contradiction
  | _ => cases token <;> first | contradiction | exact ⟨_, rfl⟩

end Position

namespace Document

/-- A text that goes wrong at its end is not all one value. -/
theorem ofTokens_of_broken (position : Position) (whole : List Token) {token : Token}
    (broken : token.isBroken = true) :
    (ofTokens position (whole ++ [token])).excess = true ∨
      (ofTokens position (whole ++ [token])).value.isCut = true := by
  induction whole generalizing position with
  | nil =>
      cases unfinished : position.isFinished with
      | true => cases position <;> first | contradiction | exact .inl rfl
      | false =>
          obtain ⟨value, stops⟩ := Position.next_of_broken unfinished broken
          rw [List.nil_append, ofTokens_cons unfinished, stops]
          exact .inr (Position.isCut_of_next unfinished stops)
  | cons first whole ih =>
      cases unfinished : position.isFinished with
      | true => cases position <;> first | contradiction | exact .inl rfl
      | false =>
          rw [List.cons_append, ofTokens_cons unfinished]
          cases taken : position.next first with
          | ok following => exact ih following
          | error value => exact .inr (Position.isCut_of_next unfinished taken)

end Document

/-! ## Reading -/

theorem error_of_bind {first : Except ε α} {next : α → Except ε β}
    (fails : ∀ value, ∃ why, next value = .error why) :
    ∃ why, (first >>= next) = .error why := by
  cases first with
  | ok value => exact fails value
  | error why => exact ⟨why, rfl⟩

/-- A choice is not read from a text that breaks off. -/
theorem readChoice_of_isCut (choose : String → Except ReadError (Reader α))
    (alone : String → Except ReadError α) {outline : Outline} (cut : outline.isCut = true) :
    ∃ why, readChoice choose alone outline = .error why := by
  cases outline with
  | missing | brokenScalar | brokenString => exact ⟨_, rfl⟩
  | array items ending => exact ⟨_, rfl⟩
  | object members ending =>
      cases ending with
      | none => contradiction
      | some fault =>
          cases members with
          | nil => exact ⟨_, rfl⟩
          | cons member rest =>
              rcases member with ⟨key, content⟩
              refine error_of_bind fun name => error_of_bind fun read => error_of_bind fun _ => ?_
              cases rest <;> exact ⟨_, rfl⟩
  | null | bool | number | string => contradiction

/-- Reads the value that some tokens spell, if they spell nothing else. -/
def readTokens (read : Reader α) (all : List Token) : Except ReadError α := do
  let document := Document.ofTokens (.valueDue []) all
  let value ← read document.value
  if document.excess then .error (.broken .malformed) else return value

theorem readTokens_of_broken (choose : String → Except ReadError (Reader α))
    (alone : String → Except ReadError α) (whole : List Token) {token : Token}
    (broken : token.isBroken = true) :
    ∃ why, readTokens (readChoice choose alone) (whole ++ [token]) = .error why := by
  rcases Document.ofTokens_of_broken (.valueDue []) whole broken with excess | cut
  · refine error_of_bind fun value => ?_
    rw [if_pos excess]
    exact ⟨_, rfl⟩
  · obtain ⟨why, fails⟩ := readChoice_of_isCut choose alone cut
    refine ⟨why, ?_⟩
    simp only [readTokens, fails]
    rfl

/-- Space behind a text does not matter to what choice is read from it, if one is. -/
theorem readDocument_choice_stable (blank : isSpace space = true)
    (choose : String → Except ReadError (Reader α)) (alone : String → Except ReadError α)
    (text : List Char) :
    Stable id (readDocument (readChoice choose alone) text)
      (readDocument (readChoice choose alone) (text ++ [space])) := by
  have stable := tokens_append_space blank text
  change Stable id (readTokens _ (tokens text)) (readTokens _ (tokens (text ++ [space])))
  generalize tokens text = first, tokens (text ++ [space]) = second at stable ⊢
  cases stable with
  | same =>
      cases readTokens (readChoice choose alone) first with
      | ok value => exact .found value
      | error why => exact .lost why why
  | broken whole broken brokenLater =>
      obtain ⟨why, fails⟩ := readTokens_of_broken choose alone whole broken
      obtain ⟨later, failsLater⟩ := readTokens_of_broken choose alone whole brokenLater
      rw [fails, failsLater]
      exact .lost why later

end AppLifecycle.Json
