import AppLifecycle.Json.Read

/-!
# Records in JSON

A record is written as an object with a member for each field, in any order, or as an array of
the fields in their order. While a record is read its fields are collected in a draft. A record
that is one of several variants names the variant in the member `type`, or as the first item.
-/

namespace AppLifecycle.Json

variable {ρ α β : Type}

/-- A field with a value of type `β` of a record whose drafts are of type `ρ`. -/
structure Field (ρ β : Type) where
  name : String
  get : ρ → Option β
  put : ρ → β → ρ
  read : Reader β

/-- A field as it is seen while a record is read. -/
structure Slot (ρ : Type) where
  name : String
  filled : ρ → Bool
  fill : Outline → ρ → Except ReadError ρ

namespace Field

/-- The field without its type. -/
def slot (field : Field ρ β) : Slot ρ where
  name := field.name
  filled draft := (field.get draft).isSome
  fill outline draft := (field.read outline).map (field.put draft)

/-- The value of a field that must not be missing. -/
def required (field : Field ρ β) (missing : String → ReadError) (draft : ρ) :
    Except ReadError β :=
  match field.get draft with
  | some value => .ok value
  | none => .error (missing field.name)

/-- The value of a field, or its default. -/
def orElse (field : Field ρ β) (default : β) (draft : ρ) : β :=
  (field.get draft).getD default

end Field

/-- How a record is put together from its fields. -/
structure Form (ρ α : Type) where
  /-- The draft without any field. -/
  blank : ρ
  /-- The fields in their order. -/
  slots : List (Slot ρ)
  /-- The record of a draft, or what is said of the first field that is missing. -/
  complete : (String → ReadError) → ρ → Except ReadError α

/-- Collects fields from the members of an object. Other members are left out by `skip`. -/
def fillMembers (slots : List (Slot ρ)) (skip : Outline → Except Breakage Unit) :
    List (Key × Outline) → ρ → Except ReadError ρ
  | [], draft => .ok draft
  | (key, value) :: rest, draft => do
      let name ← orBroken key
      match slots.find? fun slot => slot.name = name with
      | some slot =>
          if slot.filled draft then .error (.duplicateField name)
          else do
            let next ← slot.fill value draft
            fillMembers slots skip rest next
      | none => do
          orBroken (skip value)
          fillMembers slots skip rest draft

/-- Collects fields from the items of an array. Answers with the items left over. -/
def fillItems : List (Slot ρ) → List Outline → ρ → Except ReadError (ρ × List Outline)
  | [], items, draft => .ok (draft, items)
  | _, [], draft => .ok (draft, [])
  | slot :: slots, item :: rest, draft => do
      let next ← slot.fill item draft
      fillItems slots rest next

namespace Form

/-- Reads a record. -/
def read (form : Form ρ α) : Reader α
  | .object members ending => do
      let draft ← fillMembers form.slots Outline.skip members form.blank
      orBroken (readEnding ending)
      form.complete .missingField draft
  | .array items ending => do
      let (draft, left) ← fillItems form.slots items form.blank
      if left.isEmpty then
        orBroken (readEnding ending)
        form.complete (fun _ => .invalidLength) draft
      else
        .error (.broken .malformed)
  | other => .error other.mismatch

end Form

/-- One of the variants of a record. -/
structure Variant (ρ α : Type) where
  name : String
  form : Form ρ α

/-- The member that names the variant. -/
def tagName : String :=
  "type"

/-- Reads the name of a variant. -/
def readTag (variants : List (Variant ρ α)) : Reader (Form ρ α) := fun outline => do
  let given ← readText outline
  let found ← findNamed variants (·.name) given
  return found.form

/-- Parts the members into the one that names the variant and the others, which are read
through, `levels` deep. -/
def splitTag (variants : List (Variant ρ α)) (levels : Nat) :
    List (Key × Outline) → Option (Form ρ α) →
      Except ReadError (Option (Form ρ α) × List (Key × Outline))
  | [], tag => .ok (tag, [])
  | (key, value) :: rest, tag => do
      let name ← orBroken key
      if name = tagName then
        if tag.isSome then .error (.duplicateField tagName)
        else do
          let form ← readTag variants value
          splitTag variants levels rest (some form)
      else do
        orBroken (value.readThrough levels)
        let (tag, others) ← splitTag variants levels rest tag
        return (tag, (key, value) :: others)

/-- Reads a record that is one of several variants. Its values may be nested `levels` deep. -/
def readVariant (variants : List (Variant ρ α)) (levels : Nat) : Reader α
  | .object members ending => do
      let (tag, others) ← splitTag variants levels members none
      orBroken (readEnding ending)
      match tag with
      | none => .error (.missingField tagName)
      | some form => do
          let draft ← fillMembers form.slots (fun _ => .ok ()) others form.blank
          form.complete .missingField draft
  | .array [] ending => do
      orBroken (readEnding ending)
      .error (.missingField tagName)
  | .array (tag :: items) ending => do
      let form ← readTag variants tag
      orBroken (Outline.readItems levels items)
      orBroken (readEnding ending)
      let (draft, left) ← fillItems form.slots items form.blank
      if left.isEmpty then form.complete (fun _ => .invalidLength) draft
      else .error .invalidLength
  | other => .error other.mismatch

end AppLifecycle.Json
