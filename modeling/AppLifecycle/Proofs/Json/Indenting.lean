import AppLifecycle.Proofs.Json.Writing

/-!
# Indented text says the same

Indenting a value only puts space between the tokens of its text, so the indented text spells the
datum of the value as the text without space does (`Json.spells_indented`).
-/

namespace AppLifecycle.Json

variable {gap text : List Char} {tokens : List Token}

theorem space_append {first second : List Char} (left : Space first) (right : Space second) :
    Space (first ++ second) := by
  intro c member
  rcases List.mem_append.1 member with member | member
  · exact left c member
  · exact right c member

theorem space_lineAt (level : Nat) : Space (lineAt level) := by
  intro c member
  rcases List.mem_cons.1 member with rfl | blank
  · decide
  · rw [(List.mem_replicate.1 blank).2]
    decide

/-- Space may stand in front of a text. -/
theorem Layout.space (space : Space gap) (rest : Layout tokens text) :
    Layout tokens (gap ++ text) := by
  cases rest with
  | nil behind => exact .nil (space_append space behind)
  | cons before spelled rest =>
      rw [← List.append_assoc]
      exact .cons (space_append space before) spelled rest

mutual

theorem layout_indentedChars (value : Json) (level : Nat) {tokens : List Token} {text : List Char}
    (rest : Layout tokens text) :
    Layout (value.datum.tokens ++ tokens) (value.indentedChars level ++ text) := by
  match value with
  | .null => exact .token .null rest
  | .bool value => exact .token (.bool value) rest
  | .number value => exact .token (.number (numberSpelling_natural value)) rest
  | .string value => exact .token (tokenSpelling_quote value) rest
  | .array [] =>
      have whole := Layout.token .openArray (.token .closeArray rest)
      simpa [datum, itemData, Datum.tokens, Datum.itemTokens, indentedChars] using whole
  | .object [] =>
      have whole := Layout.token .openObject (.token .closeObject rest)
      simpa [datum, memberData, Datum.tokens, Datum.memberTokens, indentedChars] using whole
  | .array (item :: items) =>
      have closed := (Layout.token .closeArray rest).space (space_lineAt level)
      have inside := layout_indentedItems (item :: items) (level + 1) closed
      have whole := Layout.token .openArray (inside.space (space_lineAt (level + 1)))
      simpa [datum, Datum.tokens, indentedChars] using whole
  | .object (member :: members) =>
      have closed := (Layout.token .closeObject rest).space (space_lineAt level)
      have inside := layout_indentedMembers (member :: members) (level + 1) closed
      have whole := Layout.token .openObject (inside.space (space_lineAt (level + 1)))
      simpa [datum, Datum.tokens, indentedChars] using whole

theorem layout_indentedItems (items : List Json) (level : Nat) {tokens : List Token}
    {text : List Char} (rest : Layout tokens text) :
    Layout (Datum.itemTokens (itemData items) ++ tokens) (indentedItems level items ++ text) := by
  match items with
  | [] => exact rest
  | [item] => exact layout_indentedChars item level rest
  | item :: next :: items =>
      have later := (layout_indentedItems (next :: items) level rest).space (space_lineAt level)
      have whole := layout_indentedChars item level (.token .comma later)
      simpa [itemData, Datum.itemTokens, indentedItems] using whole

theorem layout_indentedMembers (members : List (String × Json)) (level : Nat)
    {tokens : List Token} {text : List Char} (rest : Layout tokens text) :
    Layout (Datum.memberTokens (memberData members) ++ tokens)
      (indentedMembers level members ++ text) := by
  have blank : Space [' '] := by
    simp [Space]
  match members with
  | [] => exact rest
  | [(key, value)] =>
      have told := (layout_indentedChars value level rest).space blank
      have whole := Layout.token (tokenSpelling_quote key) (.token .colon told)
      simpa [memberData, Datum.memberTokens, indentedMembers] using whole
  | (key, value) :: next :: members =>
      have later :=
        (layout_indentedMembers (next :: members) level rest).space (space_lineAt level)
      have told := (layout_indentedChars value level (.token .comma later)).space blank
      have whole := Layout.token (tokenSpelling_quote key) (.token .colon told)
      simpa [memberData, Datum.memberTokens, indentedMembers] using whole

end

/-- The indented text of a value says what the value is, with or without space behind it. -/
theorem spells_indented (value : Json) (space : Space gap) :
    Spells value.datum (value.indented.toList ++ gap) := by
  have whole := layout_indentedChars value 0 (.nil space)
  rwa [List.append_nil, ← String.toList_ofList (l := value.indentedChars 0)] at whole

end AppLifecycle.Json
