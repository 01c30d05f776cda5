import AppLifecycle.Json.Value
import AppLifecycle.Text.Lines

/-!
# Values that stand on one line

A value that is written without spaces has no control character in it, so it stands on a line of
its own (`Json.plain_compactChars`). Plain lines that are each ended by a newline are read back as
they are (`Text.lines_of_plain`). Any other line is, too, unless it ends in a carriage return
(`Text.lines_append_newline`), which belongs to the end of a line
(`Text.lines_append_returnNewline`).
-/

namespace AppLifecycle

namespace Text

/-- No character of the text is a control character. -/
def Plain (text : List Char) : Prop :=
  ∀ c ∈ text, 32 ≤ c.toNat

instance (text : List Char) : Decidable (Plain text) :=
  List.decidableBAll (fun c : Char => 32 ≤ c.toNat) text

variable {c : Char} {text first second : List Char}

@[simp]
theorem plain_nil : Plain [] :=
  List.forall_mem_nil _

@[simp]
theorem plain_cons : Plain (c :: text) ↔ 32 ≤ c.toNat ∧ Plain text :=
  List.forall_mem_cons

@[simp]
theorem plain_append : Plain (first ++ second) ↔ Plain first ∧ Plain second :=
  List.forall_mem_append

theorem lines_cons {rest : List Char} (notNewline : c ≠ '\n')
    (notEnd : ∀ later, c = '\r' → rest ≠ '\n' :: later) :
    lines (c :: rest) = consLine c (lines rest) := by
  rw [lines]
  · exact notNewline
  · exact notEnd

theorem lines_append_newline (oneLine : '\n' ∉ text) (notReturn : text.getLast? ≠ some '\r')
    (rest : List Char) : lines (text ++ '\n' :: rest) = text :: lines rest := by
  induction text with
  | nil => rw [List.nil_append, lines]
  | cons c text ih =>
      rw [List.mem_cons, not_or] at oneLine
      have separate : ∀ later, c = '\r' → text ++ '\n' :: rest ≠ '\n' :: later := by
        rintro later rfl equal
        cases text with
        | nil => exact notReturn rfl
        | cons d text => exact oneLine.2 ((List.cons.inj equal).1 ▸ List.mem_cons_self)
      have notReturn' : text.getLast? ≠ some '\r' := by
        cases text with
        | nil => nofun
        | cons d text => rwa [List.getLast?_cons_cons] at notReturn
      rw [List.cons_append, lines_cons (Ne.symm oneLine.1) separate, ih oneLine.2 notReturn',
        consLine]

theorem lines_append_returnNewline (oneLine : '\n' ∉ text) (rest : List Char) :
    lines (text ++ '\r' :: '\n' :: rest) = text :: lines rest := by
  induction text with
  | nil => rw [List.nil_append, lines]
  | cons c text ih =>
      rw [List.mem_cons, not_or] at oneLine
      have separate : ∀ later, c = '\r' → text ++ '\r' :: '\n' :: rest ≠ '\n' :: later := by
        rintro later _ equal
        cases text with
        | nil => cases equal
        | cons d text => exact oneLine.2 ((List.cons.inj equal).1 ▸ List.mem_cons_self)
      rw [List.cons_append, lines_cons (Ne.symm oneLine.1) separate, ih oneLine.2, consLine]

theorem Plain.newline_not_mem (plain : Plain text) : '\n' ∉ text :=
  fun member => absurd (plain _ member) (by decide)

/-- A plain line is read as it is. -/
theorem lines_append (plain : Plain text) (rest : List Char) :
    lines (text ++ '\n' :: rest) = text :: lines rest := by
  apply lines_append_newline plain.newline_not_mem
  intro returned
  exact absurd (plain '\r' (List.mem_of_getLast? returned)) (by decide)

/-- Plain lines that are each ended by a newline are read as they are. -/
theorem lines_of_plain (texts : List (List Char)) (plain : ∀ text ∈ texts, Plain text) :
    lines (texts.flatMap (· ++ ['\n'])) = texts ++ [[]] := by
  induction texts with
  | nil => rfl
  | cons text rest ih =>
      have later := ih fun other member => plain other (List.mem_cons_of_mem _ member)
      rw [List.flatMap_cons, List.append_assoc, List.singleton_append,
        lines_append (plain text (List.mem_cons_self ..)), later, List.cons_append]

end Text

namespace Json

open Text (Plain plain_cons plain_append)

/-- Control characters are escaped. -/
theorem plain_escapeChar (c : Char) : Plain (escapeChar c) := by
  have digit : ∀ n < 16, 32 ≤ (hexDigit n).toNat := by decide
  unfold escapeChar
  -- Seven characters have escapes of one letter.
  iterate 7 (split; · simp)
  split
  · rename_i control
    have high := digit (c.toNat / 16) (by omega)
    have low := digit (c.toNat % 16) (Nat.mod_lt _ (by omega))
    simp [high, low]
  · rename_i printable
    simpa using printable

theorem plain_quote (text : List Char) : Plain (quote text) := by
  intro c member
  rw [quote, List.cons_append, List.mem_cons, List.mem_append, List.mem_flatMap,
    List.mem_singleton] at member
  rcases member with rfl | ⟨source, _, escaped⟩ | rfl
  · decide
  · exact plain_escapeChar source c escaped
  · decide

theorem plain_naturalText (n : Nat) : Plain (naturalText n) := by
  intro c member
  have digit := Nat.isDigit_of_mem_toDigits (by decide) (by decide) member
  simp only [Char.isDigit, Bool.and_eq_true, decide_eq_true_eq] at digit
  have least : 48 ≤ c.toNat := digit.1
  omega

mutual

/-- A value that is written without spaces stands on one line. -/
theorem plain_compactChars (value : Json) : Plain value.compactChars := by
  cases value with
  | null => decide
  | bool value => cases value <;> decide
  | number value => exact plain_naturalText value
  | string value => exact plain_quote value.toList
  | array items => simp [compactChars, plain_compactItems items]
  | object members => simp [compactChars, plain_compactMembers members]

theorem plain_compactItems (items : List Json) : Plain (compactItems items) := by
  match items with
  | [] => exact Text.plain_nil
  | [item] => exact plain_compactChars item
  | item :: next :: rest =>
      simp [compactItems, plain_compactChars item, plain_compactItems (next :: rest)]

theorem plain_compactMembers (members : List (String × Json)) :
    Plain (compactMembers members) := by
  match members with
  | [] => exact Text.plain_nil
  | [(key, value)] => simp [compactMembers, plain_quote, plain_compactChars value]
  | (key, value) :: next :: rest =>
      simp [compactMembers, plain_quote, plain_compactChars value,
        plain_compactMembers (next :: rest)]

end

theorem plain_compact (value : Json) : Plain value.compact.toList := by
  rw [compact, String.toList_ofList]
  exact plain_compactChars value

end Json

end AppLifecycle
