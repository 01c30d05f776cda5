import AppLifecycle.Proofs.Json.Parsing

/-!
# What is written spells what it says

The text of a value that is written spells the datum of the value (`Json.spells_compact`), so
whoever reads the text reads the outline of that datum. A whole number is spelled by its decimal
digits, and read as itself while it fits 64 bits.
-/

namespace AppLifecycle

namespace Json

/-! ## Whole numbers -/

/-- The decimal digits of a whole number. -/
def decimals (n : Nat) : List Nat :=
  (Nat.toDigits 10 n).map digitValue

theorem decimals_of_lt {n : Nat} (small : n < 10) : decimals n = [n] := by
  rw [decimals, Nat.toDigits_of_lt_base small, List.map_singleton, digitValue_digitChar small]

theorem decimals_of_le {n : Nat} (large : 10 ≤ n) :
    decimals n = decimals (n / 10) ++ [n % 10] := by
  rw [decimals, Nat.toDigits_of_base_le (by decide) large, List.map_append, List.map_singleton,
    digitValue_digitChar (Nat.mod_lt n (by decide)), decimals]

theorem digitsText_decimals (n : Nat) : digitsText (decimals n) = naturalText n := by
  induction n using Nat.strongRecOn with
  | _ n ih =>
      rcases Nat.lt_or_ge n 10 with small | large
      · rw [decimals_of_lt small, naturalText, Nat.toDigits_of_lt_base small]
        rfl
      · have shorter := ih (n / 10) (by omega)
        rw [digitsText, naturalText] at shorter
        rw [decimals_of_le large, digitsText, List.map_append, shorter, naturalText,
          Nat.toDigits_of_base_le (by decide) large]
        rfl

theorem ofDigits_decimals (n : Nat) : ofDigits (decimals n) = n := by
  induction n using Nat.strongRecOn with
  | _ n ih =>
      rcases Nat.lt_or_ge n 10 with small | large
      · rw [decimals_of_lt small, ofDigits, List.foldl_cons, List.foldl_nil]
        omega
      · have shorter := ih (n / 10) (by omega)
        rw [ofDigits] at shorter
        rw [decimals_of_le large, ofDigits, List.foldl_append, shorter, List.foldl_cons,
          List.foldl_nil]
        omega

theorem decimals_ne_nil (n : Nat) : decimals n ≠ [] := by
  simp [decimals, Nat.toDigits_ne_nil]

theorem areDigits_decimals (n : Nat) : AreDigits (decimals n) := by
  constructor
  · exact decimals_ne_nil n
  · induction n using Nat.strongRecOn with
    | _ n ih =>
        rcases Nat.lt_or_ge n 10 with small | large
        · simpa [decimals_of_lt small] using small
        · have shorter := ih (n / 10) (by omega)
          have last := Nat.mod_lt n (show 10 > 0 by decide)
          simpa [decimals_of_le large, or_imp, forall_and, last] using shorter

theorem eq_zero_of_head?_decimals {n : Nat} (head : (decimals n).head? = some 0) : n = 0 := by
  induction n using Nat.strongRecOn with
  | _ n ih =>
      rcases Nat.lt_or_ge n 10 with small | large
      · simpa [decimals_of_lt small] using head
      · rw [decimals_of_le large, List.head?_append_of_ne_nil _ (decimals_ne_nil _)] at head
        have zero := ih (n / 10) (by omega) head
        omega

theorem trim_decimals (n : Nat) (head : (decimals n).head? = some 0) : decimals n = [0] := by
  rw [eq_zero_of_head?_decimals head, decimals_of_lt (by decide)]

/-- The parts of a whole number. -/
def NumberParts.integer (n : Int) : NumberParts :=
  ⟨decide (n < 0), decimals n.natAbs, none, none⟩

/-- A whole number, written without fraction and exponent. -/
def Datum.integer (n : Int) : Datum :=
  .number (.integer n)

theorem NumberParts.value_integer_natural {n : Nat} (fits : n < UInt64.size) :
    (integer n).value = .ok (.natural n) := by
  have sign : decide ((n : Int) < 0) = false := by simp
  rw [integer, sign, value, Int.natAbs_natCast, ofDigits_decimals, if_pos fits]

theorem NumberParts.value_integer_negative {n : Int} (negative : n < 0)
    (fits : -(UInt64.size / 2 : Nat) ≤ n) : (integer n).value = .ok (.negative n.natAbs) := by
  have sign : decide (n < 0) = true := decide_eq_true negative
  have range : 0 < n.natAbs ∧ n.natAbs ≤ UInt64.size / 2 := by omega
  rw [integer, sign, value, ofDigits_decimals, if_pos range]

theorem numberSpelling_natural (n : Nat) : NumberSpelling (.integer n) (naturalText n) := by
  have sign : decide ((n : Int) < 0) = false := by simp
  have spelled : NumberSpelling ⟨false, decimals n, none, none⟩
      ([] ++ (digitsText (decimals n) ++ ([] ++ []))) :=
    .intro (areDigits_decimals n) (trim_decimals n) .absent .absent
  rw [digitsText_decimals] at spelled
  simpa [NumberParts.integer, sign] using spelled

/-! ## Strings -/

theorem isHexDigit_hexDigit {value : Nat} (small : value < 16) :
    IsHexDigit value (hexDigit value) :=
  ⟨small, .inl rfl⟩

/-- A control character is escaped by its code. -/
theorem hexSpelling_control {code : Nat} (control : code < 32) :
    HexSpelling code ['0', '0', hexDigit (code / 16), hexDigit (code % 16)] := by
  have zero : IsHexDigit 0 '0' := ⟨by decide, .inl rfl⟩
  have high := isHexDigit_hexDigit (show code / 16 < 16 by omega)
  have low := isHexDigit_hexDigit (Nat.mod_lt code (show 16 > 0 by decide))
  have spelled := HexSpelling.intro zero zero high low
  rwa [Nat.zero_mul, Nat.zero_add, Nat.div_add_mod'] at spelled

theorem charSpelling_escapeChar (c : Char) : CharSpelling c (escapeChar c) := by
  unfold escapeChar
  -- Seven characters have escapes of one letter.
  iterate 5
    split
    · rename_i same
      subst same
      exact .letter (by decide)
  iterate 2
    split
    · rename_i code
      have same := congrArg Char.ofNat code
      rw [Char.ofNat_toNat] at same
      subst same
      exact .letter (by decide)
  split
  · rename_i control
    exact .code (hexSpelling_control control)
  · rename_i notQuote notBackslash _ _ _ _ _ printable
    exact .plain (Nat.le_of_not_lt printable) notQuote notBackslash

theorem textSpelling_flatMap (text : List Char) :
    TextSpelling text (text.flatMap escapeChar) := by
  induction text with
  | nil => exact .nil
  | cons c text ih => exact .cons (charSpelling_escapeChar c) ih

theorem tokenSpelling_quote (text : String) :
    TokenSpelling (.quoted (.ok text)) (quote text.toList) :=
  .quoted (textSpelling_flatMap text.toList)

/-! ## Values -/

mutual

/-- What the text of a value says. -/
def datum : Json → Datum
  | null => .null
  | bool value => .bool value
  | number value => .integer value
  | string text => .string text
  | array items => .array (itemData items)
  | object members => .object (memberData members)

/-- What the texts of items say. -/
def itemData : List Json → List Datum
  | [] => []
  | item :: rest => item.datum :: itemData rest

/-- What the texts of members say. -/
def memberData : List (String × Json) → List (String × Datum)
  | [] => []
  | (key, value) :: rest => (key, value.datum) :: memberData rest

end

/-- A value that is no list, and no number beyond 64 bits. -/
def Scalar : Json → Prop
  | number value => value < UInt64.size
  | array _ | object _ => False
  | null | bool _ | string _ => True

@[simp]
theorem scalar_bool (value : Bool) : (bool value).Scalar :=
  trivial

@[simp]
theorem scalar_string (text : String) : (string text).Scalar :=
  trivial

theorem Scalar.depth_datum {value : Json} (scalar : value.Scalar) : value.datum.depth = 0 := by
  cases value <;> first | rfl | contradiction

theorem Scalar.inRange_datum {value : Json} (scalar : value.Scalar) : value.datum.InRange := by
  cases value with
  | number n => exact ⟨_, NumberParts.value_integer_natural scalar⟩
  | null | bool _ | string _ => trivial
  | array _ | object _ => contradiction

theorem memberDepth_of_scalar {members : List (String × Json)}
    (scalar : ∀ entry ∈ members, entry.2.Scalar) : Datum.memberDepth (memberData members) = 0 := by
  induction members with
  | nil => rfl
  | cons entry rest ih =>
      rw [List.forall_mem_cons] at scalar
      rw [memberData, Datum.memberDepth, scalar.1.depth_datum, ih scalar.2, Nat.max_self]

theorem membersInRange_of_scalar {members : List (String × Json)}
    (scalar : ∀ entry ∈ members, entry.2.Scalar) : Datum.MembersInRange (memberData members) := by
  induction members with
  | nil => trivial
  | cons entry rest ih =>
      rw [List.forall_mem_cons] at scalar
      exact ⟨scalar.1.inRange_datum, ih scalar.2⟩

/-- A token stands at the front of a text. -/
theorem Layout.token {token : Token} {tokens : List Token} {word text : List Char}
    (spelled : TokenSpelling token word) (rest : Layout tokens text) :
    Layout (token :: tokens) (word ++ text) := by
  have whole : Layout (token :: tokens) ([] ++ (word ++ text)) := .cons nofun spelled rest
  exact whole

mutual

theorem layout_compactChars (value : Json) {tokens : List Token} {text : List Char}
    (rest : Layout tokens text) :
    Layout (value.datum.tokens ++ tokens) (value.compactChars ++ text) := by
  match value with
  | .null => exact .token .null rest
  | .bool value => exact .token (.bool value) rest
  | .number value => exact .token (.number (numberSpelling_natural value)) rest
  | .string value => exact .token (tokenSpelling_quote value) rest
  | .array items =>
      have inside := layout_compactItems items (.token .closeArray rest)
      have whole := Layout.token .openArray inside
      simpa [datum, Datum.tokens, compactChars] using whole
  | .object members =>
      have inside := layout_compactMembers members (.token .closeObject rest)
      have whole := Layout.token .openObject inside
      simpa [datum, Datum.tokens, compactChars] using whole

theorem layout_compactItems (items : List Json) {tokens : List Token} {text : List Char}
    (rest : Layout tokens text) :
    Layout (Datum.itemTokens (itemData items) ++ tokens) (compactItems items ++ text) := by
  match items with
  | [] => exact rest
  | [item] => exact layout_compactChars item rest
  | item :: next :: items =>
      have later := layout_compactItems (next :: items) rest
      have whole := layout_compactChars item (.token .comma later)
      simpa [itemData, Datum.itemTokens, compactItems] using whole

theorem layout_compactMembers (members : List (String × Json)) {tokens : List Token}
    {text : List Char} (rest : Layout tokens text) :
    Layout (Datum.memberTokens (memberData members) ++ tokens)
      (compactMembers members ++ text) := by
  match members with
  | [] => exact rest
  | [(key, value)] =>
      have whole := Layout.token (tokenSpelling_quote key)
        (.token .colon (layout_compactChars value rest))
      simpa [memberData, Datum.memberTokens, compactMembers] using whole
  | (key, value) :: next :: members =>
      have later := layout_compactMembers (next :: members) rest
      have whole := Layout.token (tokenSpelling_quote key)
        (.token .colon (layout_compactChars value (.token .comma later)))
      simpa [memberData, Datum.memberTokens, compactMembers] using whole

end

/-- The text of a value says what the value is. -/
theorem spells_compact {value : Json} {said : Datum} (same : value.datum = said) :
    Spells said value.compactChars := by
  have nothing : Layout [] [] := .nil nofun
  have whole := layout_compactChars value nothing
  rwa [List.append_nil, List.append_nil, same] at whole

/-- The text of a value is read like its datum. -/
theorem readDocument_compact {α : Type} (read : Reader α) (value : Json) :
    readDocument read value.compactChars = read value.datum.outline :=
  readDocument_of_spells read (spells_compact rfl)

end Json

end AppLifecycle
