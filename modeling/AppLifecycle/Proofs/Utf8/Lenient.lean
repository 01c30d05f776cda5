import AppLifecycle.Proofs.Utf8

/-!
# Lenient reading

What lenient reading makes of any bytes is said here without the reader. Bytes that encode a
character stand for it. Where they encode none there is an invalid part: the longest start of a
character, or a single byte if no character starts there. Each invalid part stands for one
replacement character. The reader finds just this text (`decodes_iff`), which spells the bytes
exactly when they are valid (`toUTF8_decodeLossy_iff`).
-/

namespace AppLifecycle.Text

variable {part other rest later bytes : List UInt8} {first : UInt8} {c : Char}
  {bits more : Nat} {text : List Char}

/-! ## Valid bytes and invalid parts -/

/-- Bytes that spell some text. -/
def Valid (bytes : List UInt8) : Prop :=
  ∃ text : String, text.toUTF8.toList = bytes

/-- Bytes that the encoding of some character starts with. -/
def Begins (part : List UInt8) : Prop :=
  ∃ c, part <+: String.utf8EncodeChar c

/-- Bytes that are invalid as one part, in front of the bytes `rest`. -/
structure InvalidPart (part rest : List UInt8) : Prop where
  nonempty : part ≠ []
  /-- The bytes encode no character here. -/
  no_char : ∀ c, ¬ String.utf8EncodeChar c <+: part ++ rest
  begins : part.length = 1 ∨ Begins part
  /-- With more of the bytes it would begin no character. -/
  maximal : ∀ longer, longer <+: part ++ rest → part.length < longer.length → ¬ Begins longer

/-- The text that bytes stand for. -/
inductive Decodes : List UInt8 → List Char → Prop where
  | nil : Decodes [] []
  | char (c : Char) {bytes : List UInt8} {text : List Char} (decodes : Decodes bytes text) :
      Decodes (String.utf8EncodeChar c ++ bytes) (c :: text)
  | invalid {part bytes : List UInt8} {text : List Char} (invalid : InvalidPart part bytes)
      (decodes : Decodes bytes text) : Decodes (part ++ bytes) ('\uFFFD' :: text)

/-- A longer part would begin a character. -/
theorem InvalidPart.length_le (invalid : InvalidPart part rest)
    (invalid' : InvalidPart other later) (same : part ++ rest = other ++ later) :
    other.length ≤ part.length := by
  apply Nat.le_of_not_lt
  intro longer
  rcases invalid'.begins with single | begins
  · have positive := List.length_pos_iff.2 invalid.nonempty
    omega
  · exact invalid.maximal other (same ▸ List.prefix_append ..) longer begins

/-- At most one part is invalid at a place. -/
theorem InvalidPart.unique (invalid : InvalidPart part rest) (invalid' : InvalidPart other later)
    (same : part ++ rest = other ++ later) : part = other ∧ rest = later :=
  List.append_inj same
    (Nat.le_antisymm (invalid'.length_le invalid same.symm) (invalid.length_le invalid' same))

/-! ## Characters that are read -/

theorem utf8EncodeChar_ofNat {number : Nat} (valid : number.isValidChar) :
    String.utf8EncodeChar (Char.ofNat number) =
      if number ≤ 127 then [UInt8.ofNat number]
      else if number ≤ 2047 then
        [UInt8.ofNat (number / 64 % 32 + 192), UInt8.ofNat (number % 64 + 128)]
      else if number ≤ 65535 then
        [UInt8.ofNat (number / 4096 % 16 + 224), UInt8.ofNat (number / 64 % 64 + 128),
          UInt8.ofNat (number % 64 + 128)]
      else
        [UInt8.ofNat (number / 262144 % 8 + 240), UInt8.ofNat (number / 4096 % 64 + 128),
          UInt8.ofNat (number / 64 % 64 + 128), UInt8.ofNat (number % 64 + 128)] := by
  have same : (Char.ofNat number).val.toNat = number := by
    rw [Char.ofNat, dif_pos valid]
    rfl
  rw [String.utf8EncodeChar.eq_1, same]

/-- A byte is known from its number. -/
theorem eq_ofNat_of_toNat (byte : UInt8) {number : Nat} (same : byte.toNat = number) :
    byte = UInt8.ofNat number := by
  rw [← same, UInt8.ofNat_toNat]

theorem isContinuation_iff {byte : UInt8} :
    isContinuation byte = true ↔ 128 ≤ byte.toNat ∧ byte.toNat ≤ 191 := by
  simp [isContinuation, UInt8.le_iff_toNat_le]

/-- A character that goes on takes a byte that continues it. -/
theorem continueChar_succ_eq_some (read : continueChar bits (more + 1) bytes = (some c, later)) :
    ∃ byte rest, bytes = byte :: rest ∧ 128 ≤ byte.toNat ∧ byte.toNat ≤ 191 ∧
      continueChar (bits * 64 + byte.toNat % 64) more rest = (some c, later) := by
  cases bytes with
  | nil => simp [continueChar] at read
  | cons byte rest =>
      rw [continueChar] at read
      split at read
      · rename_i continues
        obtain ⟨above, below⟩ := isContinuation_iff.1 continues
        exact ⟨byte, rest, rfl, above, below, read⟩
      · simp at read

theorem continueChar_zero_eq_some (read : continueChar bits 0 bytes = (some c, later)) :
    c = Char.ofNat bits ∧ bytes = later := by
  rw [continueChar, Prod.mk.injEq, Option.some.injEq] at read
  exact ⟨read.1.symm, read.2⟩

/-- What a first byte of a longer character says, by the number of bytes that come after the
second. -/
theorem Utf8Lead.of_known {lead : Utf8Lead} (known : ofByte? first = some lead) :
    128 ≤ lead.low.toNat ∧ lead.high.toNat ≤ 191 ∧
      (lead.more = 0 ∧ first.toNat = lead.bits + 192 ∧ 2 ≤ lead.bits ∧ lead.bits < 32 ∨
        lead.more = 1 ∧ first.toNat = lead.bits + 224 ∧ lead.bits < 16 ∧
          (lead.bits = 0 → 160 ≤ lead.low.toNat) ∧ (lead.bits = 13 → lead.high.toNat ≤ 159) ∨
        lead.more = 2 ∧ first.toNat = lead.bits + 240 ∧ lead.bits ≤ 4 ∧
          (lead.bits = 0 → 144 ≤ lead.low.toNat) ∧
          (lead.bits = 4 → lead.high.toNat ≤ 143)) := by
  rw [ofByte?_eq] at known
  split_ifs at known <;> obtain rfl := Option.some.inj known <;> simp <;> omega

/-- How reading a character can go: on one byte, by a first byte that the second one suits, or not
at all. In the last case nothing behind the next byte matters. -/
theorem firstChar_cases (first : UInt8) (rest : List UInt8) :
    (first.toNat < 128 ∧ firstChar first rest = (some (Char.ofNat first.toNat), rest)) ∨
    (∃ lead second later, Utf8Lead.ofByte? first = some lead ∧ rest = second :: later ∧
      lead.low.toNat ≤ second.toNat ∧ second.toNat ≤ lead.high.toNat ∧
      ∀ other, firstChar first (second :: other) =
        continueChar (lead.bits * 64 + second.toNat % 64) lead.more other) ∨
    (firstChar first rest = (none, rest) ∧ ∀ next after other, rest = next :: after →
      firstChar first (next :: other) = (none, next :: other)) := by
  by_cases short : first < 0x80
  · left
    exact ⟨short, by simp [firstChar, short]⟩
  right
  cases known : Utf8Lead.ofByte? first with
  | none => right; simp [firstChar, short, known]
  | some lead =>
      cases rest with
      | nil => right; simp [firstChar, short]
      | cons second later =>
          by_cases suits : lead.low ≤ second ∧ second ≤ lead.high
          · left
            refine ⟨lead, second, later, rfl, rfl, suits.1, suits.2, fun other => ?_⟩
            simp [firstChar, short, known, suits, continuationBits]
          · right
            have refused (other : List UInt8) :
                firstChar first (second :: other) = (none, second :: other) := by
              simp [firstChar, short, known, suits]
            refine ⟨refused later, fun next after other same => ?_⟩
            rw [← (List.cons.inj same).1]
            exact refused other

/-- A longer character is read only from the bytes that encode it. The range of its second byte keeps
its number out of the shorter forms and the surrogates. -/
theorem eq_encoded_of_lead {lead : Utf8Lead} {second : UInt8}
    (known : Utf8Lead.ofByte? first = some lead) (low : lead.low.toNat ≤ second.toNat)
    (high : second.toNat ≤ lead.high.toNat)
    (read : continueChar (lead.bits * 64 + second.toNat % 64) lead.more rest = (some c, later)) :
    first :: second :: rest = String.utf8EncodeChar c ++ later := by
  obtain ⟨above, below, ⟨two, number, least, most⟩ | ⟨three, number, most, least, gap⟩ |
    ⟨four, number, most, least, top⟩⟩ := Utf8Lead.of_known known
  · rw [two] at read
    obtain ⟨rfl, rfl⟩ := continueChar_zero_eq_some read
    rw [utf8EncodeChar_ofNat (by omega), if_neg (by omega), if_pos (by omega),
      ← eq_ofNat_of_toNat first (by omega), ← eq_ofNat_of_toNat second (by omega)]
    rfl
  · rw [three] at read
    obtain ⟨third, rest, rfl, above', below', read⟩ := continueChar_succ_eq_some read
    obtain ⟨rfl, rfl⟩ := continueChar_zero_eq_some read
    rw [utf8EncodeChar_ofNat (by omega), if_neg (by omega), if_neg (by omega), if_pos (by omega),
      ← eq_ofNat_of_toNat first (by omega), ← eq_ofNat_of_toNat second (by omega),
      ← eq_ofNat_of_toNat third (by omega)]
    rfl
  · rw [four] at read
    obtain ⟨third, rest, rfl, above', below', read⟩ := continueChar_succ_eq_some read
    obtain ⟨fourth, rest, rfl, above'', below'', read⟩ := continueChar_succ_eq_some read
    obtain ⟨rfl, rfl⟩ := continueChar_zero_eq_some read
    rw [utf8EncodeChar_ofNat (by omega), if_neg (by omega), if_neg (by omega), if_neg (by omega),
      ← eq_ofNat_of_toNat first (by omega), ← eq_ofNat_of_toNat second (by omega),
      ← eq_ofNat_of_toNat third (by omega), ← eq_ofNat_of_toNat fourth (by omega)]
    rfl

/-- A character is read only from the bytes that encode it. -/
theorem firstChar_eq_some (read : firstChar first rest = (some c, later)) :
    first :: rest = String.utf8EncodeChar c ++ later := by
  rcases firstChar_cases first rest with ⟨short, whole⟩ |
    ⟨lead, second, rest, known, rfl, low, high, goesOn⟩ | ⟨refused, _⟩
  · rw [whole, Prod.mk.injEq, Option.some.injEq] at read
    obtain ⟨rfl, rfl⟩ := read
    rw [utf8EncodeChar_ofNat (by omega), if_pos (by omega), UInt8.ofNat_toNat,
      List.singleton_append]
  · rw [goesOn] at read
    exact eq_encoded_of_lead known low high read
  · rw [refused, Prod.mk.injEq] at read
    exact absurd read.1 nofun

/-- The bytes that encode a character are read as it. -/
theorem firstChar_of_encoded (first : UInt8) (rest : List UInt8)
    (encoded : first :: rest = String.utf8EncodeChar c ++ later) :
    (firstChar first rest).1 = some c := by
  have pieces := utf8Pieces_append c later
  rw [← encoded, utf8Pieces] at pieces
  exact (List.cons.inj pieces).1

/-! ## Invalid parts that are passed over -/

/-- Any character that goes on can be completed. -/
theorem exists_completion (bits more : Nat) :
    ∃ completion c, continueChar bits more completion = (some c, []) := by
  induction more generalizing bits with
  | zero => exact ⟨[], _, rfl⟩
  | succ more ih =>
      obtain ⟨completion, c, read⟩ := ih (bits * 64 + continuationBits 0x80)
      exact ⟨0x80 :: completion, c, by rw [continueChar, if_pos (by decide), read]⟩

/-- A character that goes on stops at a byte that does not continue it, whatever is behind that
byte. Other bytes in its place would have completed the character. -/
theorem continueChar_eq_none (read : continueChar bits more bytes = (none, later)) :
    ∃ part, bytes = part ++ later ∧
      (∀ next after other, later = next :: after →
        (continueChar bits more (part ++ next :: other)).1 = none) ∧
      ∃ completion c, continueChar bits more (part ++ completion) = (some c, []) := by
  fun_induction continueChar bits more bytes with
  | case1 => simp at read
  | case2 bits more =>
      obtain rfl : [] = later := (Prod.mk.inj read).2
      refine ⟨[], rfl, fun next after other same => ?_, exists_completion bits (more + 1)⟩
      exact absurd same.symm (List.cons_ne_nil next after)
  | case3 bits more byte rest continues ih =>
      obtain ⟨part, rfl, stops, completion, c, completed⟩ := ih read
      refine ⟨byte :: part, rfl, fun next after other same => ?_, completion, c, ?_⟩
      · rw [List.cons_append, continueChar, if_pos continues]
        exact stops next after other same
      · rw [List.cons_append, continueChar, if_pos continues, completed]
  | case4 bits more byte rest breaks =>
      obtain rfl : byte :: rest = later := (Prod.mk.inj read).2
      refine ⟨[], rfl, fun next after other same => ?_, exists_completion bits (more + 1)⟩
      rw [List.nil_append, ← (List.cons.inj same).1, continueChar, if_neg breaks]

/-- What is passed over has one byte, or other bytes behind it would have completed a character;
the next byte would not, whatever is behind it. -/
theorem firstChar_eq_none (read : firstChar first rest = (none, later)) :
    ∃ tail, rest = tail ++ later ∧
      (∀ next after other, later = next :: after →
        (firstChar first (tail ++ next :: other)).1 = none) ∧
      (tail = [] ∨ ∃ completion c, firstChar first (tail ++ completion) = (some c, [])) := by
  rcases firstChar_cases first rest with ⟨_, whole⟩ |
    ⟨lead, second, rest, _, rfl, _, _, goesOn⟩ | ⟨refused, stops⟩
  · rw [whole, Prod.mk.injEq] at read
    exact absurd read.1 nofun
  · rw [goesOn] at read
    obtain ⟨part, rfl, stops, completion, c, completed⟩ := continueChar_eq_none read
    refine ⟨second :: part, rfl, fun next after other same => ?_, .inr ⟨completion, c, ?_⟩⟩
    · rw [List.cons_append, goesOn]
      exact stops next after other same
    · rw [List.cons_append, goesOn, completed]
  · obtain rfl : rest = later := (Prod.mk.inj (refused.symm.trans read)).2
    refine ⟨[], rfl, fun next after other same => ?_, .inl rfl⟩
    rw [List.nil_append, stops next after other same]

/-- What is passed over is an invalid part. -/
theorem invalidPart_of_firstChar (read : firstChar first rest = (none, later)) :
    ∃ tail, rest = tail ++ later ∧ InvalidPart (first :: tail) later := by
  obtain ⟨tail, rfl, stops, single⟩ := firstChar_eq_none read
  refine ⟨tail, rfl, List.cons_ne_nil first tail, ?no_char, ?begins, ?maximal⟩
  case no_char =>
    rintro c ⟨others, encoded⟩
    have found := firstChar_of_encoded first (tail ++ later) encoded.symm
    rw [read] at found
    contradiction
  case begins =>
    rcases single with rfl | ⟨completion, c, completed⟩
    · exact .inl rfl
    · have encoded := firstChar_eq_some completed
      rw [List.append_nil] at encoded
      exact .inr ⟨c, completion, encoded⟩
  case maximal =>
    -- A longer start would be read as its character, but its next byte has stopped the reading.
    rintro longer inside more ⟨c, others, encoded⟩
    have starts : first :: tail <+: longer :=
      List.prefix_of_prefix_length_le (List.prefix_append ..) inside (Nat.le_of_lt more)
    obtain ⟨extra, rfl⟩ := starts
    rw [List.prefix_append_right_inj] at inside
    cases extra with
    | nil => simp at more
    | cons next extra =>
        obtain ⟨after, rfl⟩ := inside
        have whole : first :: (tail ++ next :: (extra ++ others)) =
            String.utf8EncodeChar c ++ [] := by
          simp [← encoded]
        have found := firstChar_of_encoded first _ whole
        rw [stops next _ _ rfl] at found
        contradiction

/-! ## Lenient reading of a text -/

/-- An invalid part is read as one piece. -/
theorem InvalidPart.utf8Pieces_append (invalid : InvalidPart part rest) :
    utf8Pieces (part ++ rest) = none :: utf8Pieces rest := by
  cases part with
  | nil => exact absurd rfl invalid.nonempty
  | cons first tail =>
      rw [List.cons_append, utf8Pieces]
      rcases read : firstChar first (tail ++ rest) with ⟨found, later⟩
      cases found with
      | some c =>
          have encoded := firstChar_eq_some read
          exact absurd ⟨later, encoded.symm⟩ (invalid.no_char c)
      | none =>
          obtain ⟨tail', same, invalid'⟩ := invalidPart_of_firstChar read
          obtain ⟨_, rfl⟩ := invalid.unique invalid' (congrArg (first :: ·) same)
          rfl

theorem decodes_utf8Pieces (bytes : List UInt8) :
    Decodes bytes ((utf8Pieces bytes).map (·.getD replacementChar)) := by
  fun_induction utf8Pieces bytes with
  | case1 => exact .nil
  | case2 first rest piece ih =>
      rcases read : firstChar first rest with ⟨found, later⟩
      have same : piece = (found, later) := read
      rw [same] at ih ⊢
      cases found with
      | some c =>
          rw [firstChar_eq_some read]
          exact .char c ih
      | none =>
          obtain ⟨tail, rfl, invalid⟩ := invalidPart_of_firstChar read
          exact .invalid invalid ih

theorem Decodes.eq_utf8Pieces (decodes : Decodes bytes text) :
    text = (utf8Pieces bytes).map (·.getD replacementChar) := by
  induction decodes with
  | nil => rw [utf8Pieces, List.map_nil]
  | char c _ ih => rw [utf8Pieces_append, List.map_cons, ← ih, Option.getD_some]
  | invalid invalid _ ih =>
      rw [invalid.utf8Pieces_append, List.map_cons, ← ih]
      rfl

/-- Bytes stand for one text, which lenient reading finds. -/
theorem decodes_iff {text : String} : Decodes bytes text.toList ↔ decodeLossy bytes = text := by
  rw [decodeLossy, ← String.toList_inj, String.toList_ofList]
  constructor
  · intro decodes
    exact decodes.eq_utf8Pieces.symm
  · intro same
    exact same ▸ decodes_utf8Pieces bytes

theorem toUTF8_decodeLossy_iff :
    (decodeLossy bytes).toUTF8.toList = bytes ↔ Valid bytes := by
  constructor
  · intro same
    exact ⟨decodeLossy bytes, same⟩
  · rintro ⟨text, rfl⟩
    rw [decodeLossy_toUTF8]

end AppLifecycle.Text
