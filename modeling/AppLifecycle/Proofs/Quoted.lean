import AppLifecycle.Text.Quoted

/-!
# Text that is made visible

What a message shows of a character can be split off the front of longer text, so that different
text is shown differently (`quotedBlank_injective`).
-/

namespace AppLifecycle.Text

/-! ## Hexadecimal numbers -/

theorem digitChar_injective {first second : Nat} (small : first < 16) (smallToo : second < 16)
    (same : Nat.digitChar first = Nat.digitChar second) : first = second := by
  have all : ∀ first < 16, ∀ second < 16,
      Nat.digitChar first = Nat.digitChar second → first = second := by decide
  exact all first small second smallToo same

theorem toDigits_injective {first second : Nat}
    (same : Nat.toDigits 16 first = Nat.toDigits 16 second) : first = second := by
  induction first using Nat.strongRecOn generalizing second with
  | _ first ih =>
      rcases Nat.lt_or_ge first 16 with small | large <;>
        rcases Nat.lt_or_ge second 16 with smallToo | largeToo
      · rw [Nat.toDigits_of_lt_base small, Nat.toDigits_of_lt_base smallToo] at same
        exact digitChar_injective small smallToo (List.singleton_inj.1 same)
      · rw [Nat.toDigits_of_lt_base small, Nat.toDigits_of_base_le (by decide) largeToo] at same
        have lengths := congrArg List.length same
        simp [Nat.toDigits_ne_nil] at lengths
      · rw [Nat.toDigits_of_base_le (by decide) large, Nat.toDigits_of_lt_base smallToo] at same
        have lengths := congrArg List.length same
        simp [Nat.toDigits_ne_nil] at lengths
      · rw [Nat.toDigits_of_base_le (by decide) large,
          Nat.toDigits_of_base_le (by decide) largeToo] at same
        obtain ⟨front, last⟩ := List.append_inj' same rfl
        have quotients := ih (first / 16) (by omega) front
        have remainders := digitChar_injective (Nat.mod_lt first (by decide))
          (Nat.mod_lt second (by decide)) (List.singleton_inj.1 last)
        omega

theorem brace_not_mem_toDigits (n : Nat) : '\x7d' ∉ Nat.toDigits 16 n := by
  have digit : ∀ value < 16, Nat.digitChar value ≠ '\x7d' := by decide
  induction n using Nat.strongRecOn with
  | _ n ih =>
      rcases Nat.lt_or_ge n 16 with small | large
      · rw [Nat.toDigits_of_lt_base small, List.mem_singleton]
        exact Ne.symm (digit n small)
      · rw [Nat.toDigits_of_base_le (by decide) large, List.mem_append, List.mem_singleton, not_or]
        exact ⟨ih (n / 16) (by omega), Ne.symm (digit (n % 16) (Nat.mod_lt n (by decide)))⟩

/-- Text up to the first brace is determined by the whole. -/
theorem eq_of_append_brace {first second rest other : List Char} (free : '\x7d' ∉ first)
    (freeToo : '\x7d' ∉ second) (same : first ++ '\x7d' :: rest = second ++ '\x7d' :: other) :
    first = second ∧ rest = other := by
  induction first generalizing second with
  | nil =>
      cases second with
      | nil => exact ⟨rfl, (List.cons.inj same).2⟩
      | cons c second =>
          obtain ⟨rfl, _⟩ := List.cons.inj same
          exact absurd (List.mem_cons_self ..) freeToo
  | cons c first ih =>
      cases second with
      | nil =>
          obtain ⟨rfl, _⟩ := List.cons.inj same
          exact absurd (List.mem_cons_self ..) free
      | cons d second =>
          obtain ⟨rfl, later⟩ := List.cons.inj same
          rw [List.mem_cons, not_or] at free freeToo
          obtain ⟨rfl, rfl⟩ := ih free.2 freeToo.2 later
          exact ⟨rfl, rfl⟩

/-! ## Characters -/

/-- The characters that are escaped by a letter. -/
def escapedByLetter : List (Char × Char) :=
  [('\t', 't'), ('\n', 'n'), ('\r', 'r')]

/-- How a character is shown: as a space, by a letter, or by its code. -/
inductive ShownAs : Char → List Char → Prop where
  | space : ShownAs ' ' [' ']
  | letter {c letter : Char} (listed : (c, letter) ∈ escapedByLetter) : ShownAs c ['\\', letter]
  | code (c : Char) :
      ShownAs c ('\\' :: 'u' :: '\x7b' :: (Nat.toDigits 16 c.toNat ++ ['\x7d']))

theorem shownAs_visibleBlank (c : Char) : ShownAs c (visibleBlank c).toList := by
  unfold visibleBlank
  split
  · rename_i same
    exact same ▸ .space
  · split
    · rename_i same
      exact same ▸ .letter (by decide)
    · split
      · rename_i same
        exact same ▸ .letter (by decide)
      · split
        · rename_i same
          exact same ▸ .letter (by decide)
        · simp only [hexadecimal, String.toList_append, String.toList_ofList]
          exact .code c

theorem ShownAs.ne_nil {c : Char} {word : List Char} (shown : ShownAs c word) : word ≠ [] := by
  cases shown <;> simp

/-- What is shown of a character can be told from what follows. -/
theorem ShownAs.split {c d : Char} {word words rest other : List Char} (left : ShownAs c word)
    (right : ShownAs d words) (same : word ++ rest = words ++ other) : c = d ∧ rest = other := by
  have letters : ∀ first ∈ escapedByLetter, ∀ second ∈ escapedByLetter,
      first.2 = second.2 → first.1 = second.1 := by decide
  have noCode : ∀ escaped ∈ escapedByLetter, escaped.2 ≠ 'u' := by decide
  cases left with
  | space =>
      cases right with
      | space => exact ⟨rfl, List.append_cancel_left same⟩
      | letter | code => simp at same
  | letter listed =>
      cases right with
      | space => simp at same
      | letter listedToo =>
          simp only [List.cons_append, List.nil_append, List.cons.injEq, true_and] at same
          exact ⟨letters _ listed _ listedToo same.1, same.2⟩
      | code =>
          simp only [List.cons_append, List.nil_append, List.cons.injEq, true_and] at same
          exact absurd same.1 (noCode _ listed)
  | code =>
      cases right with
      | space => simp at same
      | letter listedToo =>
          simp only [List.cons_append, List.nil_append, List.cons.injEq, true_and] at same
          exact absurd same.1.symm (noCode _ listedToo)
      | code =>
          simp only [List.cons_append, List.append_assoc, List.nil_append, List.cons.injEq,
            true_and] at same
          obtain ⟨digits, later⟩ :=
            eq_of_append_brace (brace_not_mem_toDigits _) (brace_not_mem_toDigits _) same
          exact ⟨Char.toNat_inj.1 (toDigits_injective digits), later⟩

/-! ## Texts -/

theorem flatMap_visibleBlank_injective {text other : List Char}
    (same : text.flatMap (fun c => (visibleBlank c).toList) =
      other.flatMap fun c => (visibleBlank c).toList) : text = other := by
  induction text generalizing other with
  | nil =>
      cases other with
      | nil => rfl
      | cons d other => simp [(shownAs_visibleBlank d).ne_nil] at same
  | cons c text ih =>
      cases other with
      | nil => simp [(shownAs_visibleBlank c).ne_nil] at same
      | cons d other =>
          rw [List.flatMap_cons, List.flatMap_cons] at same
          obtain ⟨rfl, later⟩ := (shownAs_visibleBlank c).split (shownAs_visibleBlank d) same
          rw [ih later]

/-- Different text is shown differently. -/
theorem quotedBlank_injective {text other : String} (same : quotedBlank text = quotedBlank other) :
    text = other := by
  have shown : String.join (text.toList.map visibleBlank) =
      String.join (other.toList.map visibleBlank) :=
    (String.append_right_inj _).1 ((String.append_left_inj _).1 same)
  have words := congrArg String.toList shown
  rw [String.toList_join, String.toList_join, List.flatMap_map, List.flatMap_map] at words
  exact String.toList_inj.1 (flatMap_visibleBlank_injective words)

end AppLifecycle.Text
