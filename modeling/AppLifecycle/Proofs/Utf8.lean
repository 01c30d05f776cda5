import Mathlib.Tactic.SplitIfs
import AppLifecycle.Text.Utf8

/-!
# Texts and their bytes

Each character is read back from the bytes that encode it, whatever bytes follow
(`utf8Pieces_append`), so a text is read back from its bytes, by the strict reader and by the
lenient one (`decodeStrict?_toUTF8`, `decodeLossy_toUTF8`).
-/

namespace AppLifecycle.Text

/-! ## The bytes of a text as a list -/

theorem toList_loop (bytes : ByteArray) (position : Nat) (read : List UInt8) :
    ByteArray.toList.loop bytes position read =
      read.reverse ++ bytes.data.toList.drop position := by
  fun_induction ByteArray.toList.loop bytes position read with
  | case1 position read inside ih =>
      have bound : position < bytes.data.toList.length := by simpa using inside
      rw [ih, List.drop_eq_getElem_cons bound]
      simp [ByteArray.get!, inside]
  | case2 position read outside =>
      rw [List.drop_eq_nil_of_le (by simpa using Nat.le_of_not_lt outside), List.append_nil]

theorem toList_toUTF8 (text : String) :
    text.toUTF8.toList = text.toList.flatMap String.utf8EncodeChar := by
  rw [String.toUTF8_eq_toByteArray, ← String.utf8Encode_toList, List.utf8Encode, ByteArray.toList,
    toList_loop]
  exact List.toList_data_toByteArray

/-! ## Reading one character -/

section Char

variable {lead : Utf8Lead} {first : UInt8} {low : Nat}

theorem toNat_ofNat_add (bound : low < 64) : (UInt8.ofNat (low + 128)).toNat = low + 128 := by
  rw [UInt8.toNat_ofNat']
  omega

theorem continuationBits_ofNat_add (bound : low < 64) :
    continuationBits (UInt8.ofNat (low + 128)) = low := by
  rw [continuationBits, toNat_ofNat_add bound]
  omega

/-- A byte that continues a character brings six bits. -/
theorem continueChar_ofNat_add (bound : low < 64) (bits more : Nat) (rest : List UInt8) :
    continueChar bits (more + 1) (UInt8.ofNat (low + 128) :: rest) =
      continueChar (bits * 64 + low) more rest := by
  rw [continueChar, if_pos, continuationBits_ofNat_add bound]
  simp only [isContinuation, UInt8.le_iff_toNat_le, toNat_ofNat_add bound, Bool.and_eq_true,
    decide_eq_true_iff, UInt8.reduceToNat]
  omega

/-- The first byte says how the second one goes on. -/
theorem firstChar_of_lead (known : Utf8Lead.ofByte? first = some lead) (long : 128 ≤ first.toNat)
    (bound : low < 64) (above : lead.low.toNat ≤ low + 128)
    (below : low + 128 ≤ lead.high.toNat) (rest : List UInt8) :
    firstChar first (UInt8.ofNat (low + 128) :: rest) =
      continueChar (lead.bits * 64 + low) lead.more rest := by
  have short : ¬ first < 0x80 := by
    rw [UInt8.lt_iff_toNat_lt]
    exact Nat.not_lt.2 long
  simp only [firstChar, if_neg short, known, UInt8.le_iff_toNat_le, toNat_ofNat_add bound,
    continuationBits_ofNat_add bound, above, below, decide_true, Bool.and_self, if_true]

/-- The kinds of first bytes, by their numbers. -/
theorem Utf8Lead.ofByte?_eq (byte : UInt8) :
    ofByte? byte =
      if 194 ≤ byte.toNat ∧ byte.toNat ≤ 223 then some ⟨byte.toNat % 32, 0x80, 0xBF, 0⟩
      else if byte.toNat = 224 then some ⟨0, 0xA0, 0xBF, 1⟩
      else if byte.toNat = 237 then some ⟨13, 0x80, 0x9F, 1⟩
      else if 225 ≤ byte.toNat ∧ byte.toNat ≤ 239 then some ⟨byte.toNat % 16, 0x80, 0xBF, 1⟩
      else if byte.toNat = 240 then some ⟨0, 0x90, 0xBF, 2⟩
      else if 241 ≤ byte.toNat ∧ byte.toNat ≤ 243 then some ⟨byte.toNat % 8, 0x80, 0xBF, 2⟩
      else if byte.toNat = 244 then some ⟨4, 0x80, 0x8F, 2⟩
      else none := by
  simp [ofByte?, UInt8.le_iff_toNat_le, ← UInt8.toNat_inj]

end Char

/-! ## Characters of one to four bytes -/

theorem firstChar_one {number : Nat} (below : number ≤ 127) (rest : List UInt8) :
    firstChar (UInt8.ofNat number) rest = (some (Char.ofNat number), rest) := by
  have first : (UInt8.ofNat number).toNat = number := by
    rw [UInt8.toNat_ofNat']
    omega
  have short : UInt8.ofNat number < 0x80 := by
    rw [UInt8.lt_iff_toNat_lt, first]
    exact Nat.lt_succ_of_le below
  simp only [firstChar, if_pos short, first]

theorem firstChar_two {number : Nat} (above : 128 ≤ number) (below : number ≤ 2047)
    (rest : List UInt8) :
    firstChar (UInt8.ofNat (number / 64 % 32 + 192)) (UInt8.ofNat (number % 64 + 128) :: rest) =
      (some (Char.ofNat number), rest) := by
  have first : (UInt8.ofNat (number / 64 % 32 + 192)).toNat = number / 64 + 192 := by
    rw [UInt8.toNat_ofNat']
    omega
  have known := Utf8Lead.ofByte?_eq (UInt8.ofNat (number / 64 % 32 + 192))
  rw [first, if_pos (by omega)] at known
  rw [firstChar_of_lead known (by omega) (by omega) (by simp) (by simp; omega)]
  simp only [continueChar]
  congr 3
  omega

/-- The least characters of three bytes and those before the surrogates leave a part of the
second bytes out. -/
theorem Utf8Lead.exists_three {number : Nat} (above : 2048 ≤ number) (below : number ≤ 65535)
    (valid : number < 0xD800 ∨ 0xDFFF < number) {byte : UInt8}
    (first : byte.toNat = number / 4096 + 224) :
    ∃ lead, ofByte? byte = some lead ∧ lead.bits = number / 4096 ∧ lead.more = 1 ∧
      lead.low.toNat ≤ number / 64 % 64 + 128 ∧ number / 64 % 64 + 128 ≤ lead.high.toNat := by
  rw [ofByte?_eq, first, if_neg (by omega)]
  by_cases least : number < 4096
  · refine ⟨_, if_pos (by omega), ?_, rfl, ?_, ?_⟩ <;> simp <;> omega
  · rw [if_neg (by omega)]
    by_cases surrogates : number / 4096 = 13
    · refine ⟨_, if_pos (by omega), ?_, rfl, ?_, ?_⟩ <;> simp <;> omega
    · rw [if_neg (by omega)]
      refine ⟨_, if_pos (by omega), ?_, rfl, ?_, ?_⟩ <;> simp <;> omega

theorem firstChar_three {number : Nat} (above : 2048 ≤ number) (below : number ≤ 65535)
    (valid : number < 0xD800 ∨ 0xDFFF < number) (rest : List UInt8) :
    firstChar (UInt8.ofNat (number / 4096 % 16 + 224))
        (UInt8.ofNat (number / 64 % 64 + 128) :: UInt8.ofNat (number % 64 + 128) :: rest) =
      (some (Char.ofNat number), rest) := by
  have first : (UInt8.ofNat (number / 4096 % 16 + 224)).toNat = number / 4096 + 224 := by
    rw [UInt8.toNat_ofNat']
    omega
  obtain ⟨lead, known, bits, more, low, high⟩ := Utf8Lead.exists_three above below valid first
  rw [firstChar_of_lead known (by omega) (by omega) low high, more,
    continueChar_ofNat_add (by omega), continueChar, bits]
  congr 3
  omega

/-- The least and the greatest characters of four bytes leave a part of the second bytes out. -/
theorem Utf8Lead.exists_four {number : Nat} (above : 65536 ≤ number) (below : number < 0x110000)
    {byte : UInt8} (first : byte.toNat = number / 262144 + 240) :
    ∃ lead, ofByte? byte = some lead ∧ lead.bits = number / 262144 ∧ lead.more = 2 ∧
      lead.low.toNat ≤ number / 4096 % 64 + 128 ∧
      number / 4096 % 64 + 128 ≤ lead.high.toNat := by
  rw [ofByte?_eq, first, if_neg (by omega), if_neg (by omega), if_neg (by omega),
    if_neg (by omega)]
  by_cases least : number < 262144
  · refine ⟨_, if_pos (by omega), ?_, rfl, ?_, ?_⟩ <;> simp <;> omega
  · rw [if_neg (by omega)]
    by_cases middle : number < 1048576
    · refine ⟨_, if_pos (by omega), ?_, rfl, ?_, ?_⟩ <;> simp <;> omega
    · rw [if_neg (by omega)]
      refine ⟨_, if_pos (by omega), ?_, rfl, ?_, ?_⟩ <;> simp <;> omega

theorem firstChar_four {number : Nat} (above : 65536 ≤ number) (below : number < 0x110000)
    (rest : List UInt8) :
    firstChar (UInt8.ofNat (number / 262144 % 8 + 240))
        (UInt8.ofNat (number / 4096 % 64 + 128) :: UInt8.ofNat (number / 64 % 64 + 128) ::
          UInt8.ofNat (number % 64 + 128) :: rest) =
      (some (Char.ofNat number), rest) := by
  have first : (UInt8.ofNat (number / 262144 % 8 + 240)).toNat = number / 262144 + 240 := by
    rw [UInt8.toNat_ofNat']
    omega
  obtain ⟨lead, known, bits, more, low, high⟩ := Utf8Lead.exists_four above below first
  rw [firstChar_of_lead known (by omega) (by omega) low high, more,
    continueChar_ofNat_add (by omega), continueChar_ofNat_add (by omega), continueChar, bits]
  congr 3
  omega

/-! ## Reading a text -/

/-- A character is read back from its bytes, whatever follows them. -/
theorem utf8Pieces_append (c : Char) (rest : List UInt8) :
    utf8Pieces (String.utf8EncodeChar c ++ rest) = some c :: utf8Pieces rest := by
  have read : Char.ofNat c.val.toNat = c := Char.ofNat_toNat c
  have valid : c.val.toNat < 0xD800 ∨ 0xDFFF < c.val.toNat ∧ c.val.toNat < 0x110000 := c.valid
  rw [String.utf8EncodeChar.eq_1]
  split_ifs with one two three
  · rw [List.singleton_append, utf8Pieces, firstChar_one one, read]
  · rw [List.cons_append, utf8Pieces, List.singleton_append,
      firstChar_two (by omega) two, read]
  · rw [List.cons_append, utf8Pieces, List.cons_append, List.singleton_append,
      firstChar_three (by omega) three (by omega), read]
  · rw [List.cons_append, utf8Pieces, List.cons_append, List.cons_append, List.singleton_append,
      firstChar_four (by omega) (by omega), read]

theorem utf8Pieces_toUTF8 (text : String) :
    utf8Pieces text.toUTF8.toList = text.toList.map some := by
  rw [toList_toUTF8]
  induction text.toList with
  | nil => rw [List.flatMap_nil, utf8Pieces, List.map_nil]
  | cons c rest ih => rw [List.flatMap_cons, utf8Pieces_append, ih, List.map_cons]

/-- The bytes of a text are valid and spell it. -/
theorem decodeStrict?_toUTF8 (text : String) : decodeStrict? text.toUTF8.toList = some text := by
  have all : (text.toList.map some).mapM id = some text.toList := by
    induction text.toList with
    | nil => rfl
    | cons c rest ih => simp [ih]
  rw [decodeStrict?, utf8Pieces_toUTF8, all, Option.map_some, String.ofList_toList]

/-- Reading leniently changes nothing in valid bytes. -/
theorem decodeLossy_toUTF8 (text : String) : decodeLossy text.toUTF8.toList = text := by
  rw [decodeLossy, utf8Pieces_toUTF8, List.map_map]
  have same : (fun c : Char => (some c).getD replacementChar) = id := rfl
  rw [Function.comp_def, same, List.map_id, String.ofList_toList]

end AppLifecycle.Text
