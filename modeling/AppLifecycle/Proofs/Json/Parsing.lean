import AppLifecycle.Json.Read
import AppLifecycle.Proofs.Json.Lexing

/-!
# From a spelled datum to its outline

The tokens of a datum, taken one by one where a value is due, put the outline of the datum there,
whatever lists are open around it. So a text that spells a datum is read like the outline of the
datum, however it is laid out (`readDocument_of_spells`).
-/

namespace AppLifecycle.Json

open Position (afterItem afterMember colon firstItem firstKey nextKey resume valueDue)

namespace Datum

mutual

/-- The outline of a text that spells the datum. -/
def outline : Datum → Outline
  | null => .null
  | bool value => .bool value
  | number parts => .number parts.value
  | string text => .string (.ok text)
  | array items => .array (itemOutlines items) none
  | object members => .object (memberOutlines members) none

/-- The outlines of items. -/
def itemOutlines : List Datum → List Outline
  | [] => []
  | item :: rest => item.outline :: itemOutlines rest

/-- The outlines of members. -/
def memberOutlines : List (String × Datum) → List (Key × Outline)
  | [] => []
  | (key, value) :: rest => (.ok key, value.outline) :: memberOutlines rest

end

/-- The outline of a member. -/
def memberOutline (entry : String × Datum) : Key × Outline :=
  (.ok entry.1, entry.2.outline)

theorem memberOutlines_eq_map (members : List (String × Datum)) :
    memberOutlines members = members.map memberOutline := by
  induction members with
  | nil => rfl
  | cons entry rest ih => rw [List.map_cons, ← ih, memberOutlines, memberOutline]

theorem memberOutlines_append (members others : List (String × Datum)) :
    memberOutlines (members ++ others) = memberOutlines members ++ memberOutlines others := by
  simp only [memberOutlines_eq_map, List.map_append]

end Datum

/-- Whether the outermost value has ended. -/
def Position.isFinished : Position → Bool
  | .finished _ => true
  | _ => false

namespace Document

open Datum (itemOutlines itemTokens memberOutlines memberTokens)

variable {position other following : Position} {token : Token} {frames : List Frame}
  {rest : List Token}

theorem ofTokens_cons (unfinished : position.isFinished = false) :
    ofTokens position (token :: rest) =
      match position.next token with
      | .ok following => ofTokens following rest
      | .error value => ⟨value, false⟩ := by
  cases position with
  | finished value => contradiction
  | _ => rfl

theorem ofTokens_of_next (unfinished : position.isFinished = false)
    (next : position.next token = .ok following) :
    ofTokens position (token :: rest) = ofTokens following rest := by
  rw [ofTokens_cons unfinished, next]

/-- Tokens are taken alike in two positions that take the first of them alike. -/
theorem ofTokens_congr (unfinished : position.isFinished = false)
    (unfinishedToo : other.isFinished = false) (same : position.next token = other.next token) :
    ofTokens position (token :: rest) = ofTokens other (token :: rest) := by
  rw [ofTokens_cons unfinished, ofTokens_cons unfinishedToo, same]

/-- The first item begins like any other. -/
theorem ofTokens_firstItem (item : Datum) (items : List Datum) :
    ofTokens (firstItem frames) (itemTokens (item :: items) ++ rest) =
      ofTokens (valueDue (.array [] :: frames)) (itemTokens (item :: items) ++ rest) := by
  cases items <;> cases item <;> exact ofTokens_congr rfl rfl rfl

/-- The first member begins like any other. -/
theorem ofTokens_firstKey (entry : String × Datum) (members : List (String × Datum)) :
    ofTokens (firstKey frames) (memberTokens (entry :: members) ++ rest) =
      ofTokens (nextKey [] frames) (memberTokens (entry :: members) ++ rest) := by
  cases members <;> exact ofTokens_congr rfl rfl rfl

mutual

theorem ofTokens_datum (datum : Datum) (frames : List Frame) (rest : List Token) :
    ofTokens (valueDue frames) (datum.tokens ++ rest) =
      ofTokens (resume datum.outline frames) rest := by
  match datum with
  | .null | .bool _ | .number _ | .string _ => exact ofTokens_of_next rfl rfl
  | .array [] =>
      apply (ofTokens_of_next rfl rfl).trans
      exact ofTokens_of_next rfl rfl
  | .array (item :: items) =>
      rw [Datum.tokens, Datum.outline, List.cons_append, List.cons_append, List.append_assoc]
      apply (ofTokens_of_next rfl rfl).trans
      rw [ofTokens_firstItem]
      exact ofTokens_items (item :: items) nofun [] frames rest
  | .object [] =>
      apply (ofTokens_of_next rfl rfl).trans
      exact ofTokens_of_next rfl rfl
  | .object (entry :: members) =>
      rw [Datum.tokens, Datum.outline, List.cons_append, List.cons_append, List.append_assoc]
      apply (ofTokens_of_next rfl rfl).trans
      rw [ofTokens_firstKey]
      exact ofTokens_members (entry :: members) nofun [] frames rest

theorem ofTokens_items (items : List Datum) (nonempty : items ≠ []) (done : List Outline)
    (frames : List Frame) (rest : List Token) :
    ofTokens (valueDue (.array done :: frames)) (itemTokens items ++ .closeArray :: rest) =
      ofTokens (resume (.array (done.reverse ++ itemOutlines items) none) frames) rest := by
  match items with
  | [] => contradiction
  | [item] =>
      apply (ofTokens_datum item _ _).trans
      apply (ofTokens_of_next rfl rfl).trans
      simp [itemOutlines]
  | item :: next :: items =>
      rw [itemTokens, List.append_assoc, ofTokens_datum item]
      · apply (ofTokens_of_next rfl rfl).trans
        apply (ofTokens_items (next :: items) nofun _ frames rest).trans
        simp [itemOutlines]
      · nofun

theorem ofTokens_members (members : List (String × Datum)) (nonempty : members ≠ [])
    (done : List (Key × Outline)) (frames : List Frame) (rest : List Token) :
    ofTokens (nextKey done frames) (memberTokens members ++ .closeObject :: rest) =
      ofTokens (resume (.object (done.reverse ++ memberOutlines members) none) frames) rest := by
  match members with
  | [] => contradiction
  | [(key, value)] =>
      apply (ofTokens_of_next rfl rfl).trans
      apply (ofTokens_of_next rfl rfl).trans
      apply (ofTokens_datum value _ _).trans
      apply (ofTokens_of_next rfl rfl).trans
      simp [memberOutlines]
  | (key, value) :: next :: members =>
      rw [memberTokens, List.append_assoc]
      · apply (ofTokens_of_next rfl rfl).trans
        apply (ofTokens_of_next rfl rfl).trans
        apply (ofTokens_datum value _ _).trans
        apply (ofTokens_of_next rfl rfl).trans
        apply (ofTokens_members (next :: members) nofun _ frames rest).trans
        simp [memberOutlines]
      · nofun

end

/-- A text that spells a datum has its outline, and nothing stands behind it. -/
theorem ofText_of_spells {datum : Datum} {text : List Char} (spells : Spells datum text) :
    ofText text = ⟨datum.outline, false⟩ := by
  have whole := ofTokens_datum datum [] []
  rw [List.append_nil] at whole
  rw [ofText, Datum.tokens_of_spells spells, whole]
  rfl

end Document

/-- A text is read like the outline of the datum that it spells. -/
theorem readDocument_of_spells {α : Type} (read : Reader α) {datum : Datum} {text : List Char}
    (spells : Spells datum text) : readDocument read text = read datum.outline := by
  rw [readDocument, Document.ofText_of_spells spells]
  cases read datum.outline <;> rfl

end AppLifecycle.Json
