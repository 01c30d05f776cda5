import AppLifecycle.Json.Record
import AppLifecycle.Proofs.Json.Writing

/-!
# Members in any order

A record is read alike whatever the order of its members, as long as its fields do not disturb
each other (`fillMembers_perm`), and members that are no fields are passed over
(`fillMembers_unknown`). The member that names a variant may stand among the others
(`readVariant_of_members`).

So a record is told by its members (`Tells`), a text shows these in some order and among others
(`Shows`), and whoever reads the text gets the record (`Tells.readDocument`).
-/

namespace AppLifecycle.Json

variable {ρ α β γ : Type}

/-! ## Steps that succeed -/

section

variable {ε : Type} {result : Except ε α}

theorem bind_ok_iff {next : α → Except ε β} {value : β} :
    result >>= next = .ok value ↔ ∃ found, result = .ok found ∧ next found = .ok value := by
  cases result <;> simp [bind, Except.bind]

theorem map_ok_iff {convert : α → β} {value : β} :
    result.map convert = .ok value ↔ ∃ found, result = .ok found ∧ convert found = value := by
  cases result <;> simp [Except.map]

theorem mapError_ok_iff {δ : Type} {convert : ε → δ} {value : α} :
    result.mapError convert = .ok value ↔ result = .ok value := by
  cases result <;> simp [Except.mapError]

end

theorem orBroken_ok_iff {result : Except Breakage α} {value : α} :
    orBroken result = .ok value ↔ result = .ok value :=
  mapError_ok_iff

/-! ## Arrays -/

theorem readEach_outlines {read : Reader α} (write : α → Json)
    (reads : ∀ value, read (write value).datum.outline = .ok value) (values : List α) :
    readEach read (Datum.itemOutlines (itemData (values.map write))) = .ok values := by
  induction values with
  | nil => rfl
  | cons value rest ih =>
      rw [List.map_cons, itemData, Datum.itemOutlines, readEach, reads, ih]
      rfl

/-- An array of values that are each read back is read back. -/
theorem readArray_datum {read : Reader α} (write : α → Json)
    (reads : ∀ value, read (write value).datum.outline = .ok value) (values : List α) :
    readArray read (Json.array (values.map write)).datum.outline = .ok values := by
  rw [datum, Datum.outline, readArray, readEach_outlines write reads]
  rfl

/-! ## Values that are not used -/

namespace Datum

mutual

theorem readThrough_outline (datum : Datum) (inRange : datum.InRange) {levels : Nat}
    (shallow : datum.depth ≤ levels) : datum.outline.readThrough levels = .ok () := by
  match datum, levels with
  | .null, _ | .bool _, _ | .string _, _ => rfl
  | .number parts, _ =>
      obtain ⟨value, known⟩ := inRange
      rw [outline, Outline.readThrough, known]
      rfl
  | .array items, 0 | .object members, 0 => contradiction
  | .array items, levels + 1 =>
      have inside := readItems_outlines items inRange (Nat.le_of_succ_le_succ shallow)
      rw [outline, Outline.readThrough, inside]
      rfl
  | .object members, levels + 1 =>
      have inside := readMembers_outlines members inRange (Nat.le_of_succ_le_succ shallow)
      rw [outline, Outline.readThrough, inside]
      rfl

theorem readItems_outlines (items : List Datum) (inRange : ItemsInRange items) {levels : Nat}
    (shallow : itemDepth items ≤ levels) :
    Outline.readItems levels (itemOutlines items) = .ok () := by
  match items with
  | [] => rfl
  | item :: rest =>
      have first := readThrough_outline item inRange.1 (Nat.le_trans (Nat.le_max_left ..) shallow)
      have later := readItems_outlines rest inRange.2 (Nat.le_trans (Nat.le_max_right ..) shallow)
      rw [itemOutlines, Outline.readItems, first, later]
      rfl

theorem readMembers_outlines (members : List (String × Datum)) (inRange : MembersInRange members)
    {levels : Nat} (shallow : memberDepth members ≤ levels) :
    Outline.readMembers levels (memberOutlines members) = .ok () := by
  match members with
  | [] => rfl
  | (key, value) :: rest =>
      have first := readThrough_outline value inRange.1 (Nat.le_trans (Nat.le_max_left ..) shallow)
      have later :=
        readMembers_outlines rest inRange.2 (Nat.le_trans (Nat.le_max_right ..) shallow)
      rw [memberOutlines, Outline.readMembers, first, later]
      rfl

end

mutual

/-- Whoever skips a value does not mind how deep it is or how large its numbers are. -/
theorem skip_outline (datum : Datum) : datum.outline.skip = .ok () := by
  match datum with
  | .null | .bool _ | .number _ | .string _ => rfl
  | .array items =>
      rw [outline, Outline.skip, skipItems_outlines items]
      rfl
  | .object members =>
      rw [outline, Outline.skip, skipMembers_outlines members]
      rfl

theorem skipItems_outlines (items : List Datum) :
    Outline.skipItems (itemOutlines items) = .ok () := by
  match items with
  | [] => rfl
  | item :: rest =>
      rw [itemOutlines, Outline.skipItems, skip_outline item, skipItems_outlines rest]
      rfl

theorem skipMembers_outlines (members : List (String × Datum)) :
    Outline.skipMembers (memberOutlines members) = .ok () := by
  match members with
  | [] => rfl
  | (_, value) :: rest =>
      rw [memberOutlines, Outline.skipMembers, skip_outline value, skipMembers_outlines rest]
      rfl

end

end Datum

/-! ## Fields -/

/-- A value that has been put into a field is there. -/
def Field.Lawful (field : Field ρ β) : Prop :=
  ∀ draft value, field.get (field.put draft value) = some value

/-- Two fields that have nothing to do with each other. -/
structure Field.Apart (first : Field ρ β) (second : Field ρ γ) : Prop where
  swap : ∀ draft left right,
    second.put (first.put draft left) right = first.put (second.put draft right) left
  keepsFirst : ∀ draft right, first.get (second.put draft right) = first.get draft
  keepsSecond : ∀ draft left, second.get (first.put draft left) = second.get draft

namespace Slot

/-- A slot that has been filled stays so. -/
def Lasting (slot : Slot ρ) : Prop :=
  ∀ outline draft next, slot.fill outline draft = .ok next → slot.filled next = true

/-- Two slots that can be filled in either order. -/
structure Apart (first second : Slot ρ) : Prop where
  swap {left right : Outline} {draft last : ρ} :
    (∃ middle, first.fill left draft = .ok middle ∧ second.fill right middle = .ok last) ↔
      ∃ middle, second.fill right draft = .ok middle ∧ first.fill left middle = .ok last
  keepsFirst {right : Outline} {draft next : ρ} (filled : second.fill right draft = .ok next) :
    first.filled next = first.filled draft
  keepsSecond {left : Outline} {draft next : ρ} (filled : first.fill left draft = .ok next) :
    second.filled next = second.filled draft

theorem Apart.symm {first second : Slot ρ} (apart : first.Apart second) :
    second.Apart first :=
  ⟨apart.swap.symm, apart.keepsSecond, apart.keepsFirst⟩

end Slot

namespace Field

theorem slot_fill_ok_iff {field : Field ρ β} {outline : Outline} {draft next : ρ} :
    field.slot.fill outline draft = .ok next ↔
      ∃ value, field.read outline = .ok value ∧ field.put draft value = next :=
  map_ok_iff

theorem Lawful.slot {field : Field ρ β} (lawful : field.Lawful) : field.slot.Lasting := by
  intro outline draft next filled
  obtain ⟨value, _, rfl⟩ := slot_fill_ok_iff.1 filled
  exact congrArg Option.isSome (lawful draft value)

theorem Apart.slot {first : Field ρ β} {second : Field ρ γ} (apart : first.Apart second) :
    first.slot.Apart second.slot where
  swap := by
    intro outline other draft last
    simp only [slot_fill_ok_iff]
    constructor
    · rintro ⟨_, ⟨left, readLeft, rfl⟩, right, readRight, rfl⟩
      exact ⟨_, ⟨right, readRight, rfl⟩, left, readLeft, (apart.swap ..).symm⟩
    · rintro ⟨_, ⟨right, readRight, rfl⟩, left, readLeft, rfl⟩
      exact ⟨_, ⟨left, readLeft, rfl⟩, right, readRight, apart.swap ..⟩
  keepsFirst filled := by
    obtain ⟨value, _, rfl⟩ := slot_fill_ok_iff.1 filled
    exact congrArg Option.isSome (apart.keepsFirst ..)
  keepsSecond filled := by
    obtain ⟨value, _, rfl⟩ := slot_fill_ok_iff.1 filled
    exact congrArg Option.isSome (apart.keepsSecond ..)

end Field

/-- Slots that do not disturb each other, each filled at most once. -/
structure Orderly (slots : List (Slot ρ)) : Prop where
  lasting : ∀ slot ∈ slots, slot.Lasting
  apart : slots.Pairwise Slot.Apart

namespace Orderly

variable {slots : List (Slot ρ)}

theorem apart_of_name_ne (orderly : Orderly slots) {first second : Slot ρ} (member : first ∈ slots)
    (memberToo : second ∈ slots) (different : first.name ≠ second.name) :
    first.Apart second := by
  have symmetric : Std.Symm (Slot.Apart (ρ := ρ)) := ⟨fun _ _ => Slot.Apart.symm⟩
  exact orderly.apart.forall member memberToo (ne_of_apply_ne Slot.name different)

end Orderly

/-! ## Members one by one -/

/-- What one member makes of a draft. -/
inductive Takes (slots : List (Slot ρ)) (skip : Outline → Except Breakage Unit) :
    Key × Outline → ρ → ρ → Prop where
  | field {name : String} {value : Outline} {slot : Slot ρ} {draft next : ρ}
      (found : slots.find? (fun slot => slot.name = name) = some slot)
      (unfilled : slot.filled draft = false) (filled : slot.fill value draft = .ok next) :
      Takes slots skip (.ok name, value) draft next
  | other {name : String} {value : Outline} {draft : ρ}
      (unknown : slots.find? (fun slot => slot.name = name) = none)
      (skipped : skip value = .ok ()) : Takes slots skip (.ok name, value) draft draft

variable {slots : List (Slot ρ)} {skip : Outline → Except Breakage Unit}
  {member first second : Key × Outline} {members others : List (Key × Outline)}
  {draft middle last : ρ}

theorem fillMembers_cons_ok_iff :
    fillMembers slots skip (member :: members) draft = .ok last ↔
      ∃ next, Takes slots skip member draft next ∧
        fillMembers slots skip members next = .ok last := by
  obtain ⟨key, value⟩ := member
  rw [fillMembers, bind_ok_iff]
  simp only [orBroken_ok_iff]
  constructor
  · rintro ⟨name, rfl, filled⟩
    cases found : slots.find? (fun slot => slot.name = name) with
    | none =>
        simp only [found, bind_ok_iff, orBroken_ok_iff] at filled
        obtain ⟨_, skipped, rest⟩ := filled
        exact ⟨draft, .other found skipped, rest⟩
    | some slot =>
        cases already : slot.filled draft with
        | true => simp [found, already] at filled
        | false =>
            simp only [found, already, Bool.false_eq_true, if_false, bind_ok_iff] at filled
            obtain ⟨next, filled, rest⟩ := filled
            exact ⟨next, .field found already filled, rest⟩
  · rintro ⟨next, taken, rest⟩
    cases taken with
    | @field name value slot _ next found unfilled filled =>
        refine ⟨name, rfl, ?_⟩
        simp [found, unfilled, filled, rest, bind, Except.bind]
    | @other name value _ unknown skipped =>
        refine ⟨name, rfl, ?_⟩
        simp [unknown, skipped, rest, orBroken, Except.mapError, bind, Except.bind]

theorem fillMembers_append_ok_iff :
    fillMembers slots skip (members ++ others) draft = .ok last ↔
      ∃ next, fillMembers slots skip members draft = .ok next ∧
        fillMembers slots skip others next = .ok last := by
  induction members generalizing draft with
  | nil => simp [fillMembers]
  | cons member rest ih =>
      simp only [List.cons_append, fillMembers_cons_ok_iff, ih]
      constructor
      · rintro ⟨_, taken, _, filled, later⟩
        exact ⟨_, ⟨_, taken, filled⟩, later⟩
      · rintro ⟨_, ⟨_, taken, filled⟩, later⟩
        exact ⟨_, taken, _, filled, later⟩

/-- Two members one after the other can change places. -/
theorem Takes.swap (orderly : Orderly slots) (before : Takes slots skip first draft middle)
    (after : Takes slots skip second middle last) :
    ∃ between, Takes slots skip second draft between ∧ Takes slots skip first between last := by
  cases before with
  | other unknown skipped => exact ⟨last, after, .other unknown skipped⟩
  | @field name value slot _ _ found unfilled filled =>
      cases after with
      | other unknown skipped => exact ⟨draft, .other unknown skipped, .field found unfilled filled⟩
      | @field otherName otherValue other _ _ foundToo unfilledToo filledToo =>
          have member := List.mem_of_find?_eq_some found
          have memberToo := List.mem_of_find?_eq_some foundToo
          by_cases same : name = otherName
          · -- The same slot would have been filled before.
            subst same
            obtain rfl : slot = other := Option.some.inj (found.symm.trans foundToo)
            rw [orderly.lasting slot member _ _ _ filled] at unfilledToo
            contradiction
          · have named : slot.name = name := by simpa using List.find?_some found
            have namedToo : other.name = otherName := by simpa using List.find?_some foundToo
            have apart := orderly.apart_of_name_ne member memberToo (named ▸ namedToo ▸ same)
            obtain ⟨between, filledToo', filled'⟩ := apart.swap.1 ⟨_, filled, filledToo⟩
            have unfilledToo' := apart.keepsSecond filled ▸ unfilledToo
            have unfilled' := (apart.keepsFirst filledToo').trans unfilled
            exact ⟨between, .field foundToo unfilledToo' filledToo', .field found unfilled' filled'⟩

/-- The order of the members does not matter. -/
theorem fillMembers_perm (orderly : Orderly slots) (perm : members.Perm others)
    (filled : fillMembers slots skip members draft = .ok last) :
    fillMembers slots skip others draft = .ok last := by
  induction perm generalizing draft with
  | nil => exact filled
  | cons member _ ih =>
      obtain ⟨next, taken, rest⟩ := fillMembers_cons_ok_iff.1 filled
      exact fillMembers_cons_ok_iff.2 ⟨next, taken, ih rest⟩
  | swap first second rest =>
      obtain ⟨middle, taken, filled⟩ := fillMembers_cons_ok_iff.1 filled
      obtain ⟨later, takenToo, filled⟩ := fillMembers_cons_ok_iff.1 filled
      obtain ⟨between, before, after⟩ := taken.swap orderly takenToo
      rw [fillMembers_cons_ok_iff]
      exact ⟨between, before, fillMembers_cons_ok_iff.2 ⟨later, after, filled⟩⟩
  | trans _ _ ihFirst ihSecond => exact ihSecond (ihFirst filled)

/-- Members that are no fields are passed over. -/
theorem fillMembers_unknown {extras : List (String × Datum)}
    (unknown : ∀ extra ∈ extras, ∀ slot ∈ slots, slot.name ≠ extra.1)
    (skipped : ∀ extra ∈ extras, skip extra.2.outline = .ok ()) :
    fillMembers slots skip (Datum.memberOutlines extras) draft = .ok draft := by
  induction extras with
  | nil => rfl
  | cons extra rest ih =>
      rw [List.forall_mem_cons] at unknown skipped
      have passed : slots.find? (fun slot => slot.name = extra.1) = none := by
        simpa using unknown.1
      rw [Datum.memberOutlines, fillMembers_cons_ok_iff]
      exact ⟨draft, .other passed skipped.1, ih unknown.2 skipped.2⟩

/-- A field that is still missing is put into the draft. -/
theorem fillMembers_field (field : Field ρ β) {value : β} {given : Datum}
    {rest : List (String × Datum)} (reads : field.read given.outline = .ok value)
    (listed : slots.find? (fun slot => slot.name = field.name) = some field.slot)
    (unfilled : field.get draft = none) :
    fillMembers slots skip (Datum.memberOutlines ((field.name, given) :: rest)) draft =
      fillMembers slots skip (Datum.memberOutlines rest) (field.put draft value) := by
  have filled : field.slot.fill given.outline draft = .ok (field.put draft value) :=
    Field.slot_fill_ok_iff.2 ⟨value, reads, rfl⟩
  have missing : field.slot.filled draft = false := congrArg Option.isSome unfilled
  simp [Datum.memberOutlines, fillMembers, listed, missing, filled, orBroken, Except.mapError,
    bind, Except.bind]

/-- A record without variants is read from its members. -/
theorem Form.read_of_members {form : Form ρ α} {entries : List (String × Datum)} {value : α}
    (filled : fillMembers form.slots Outline.skip (Datum.memberOutlines entries) form.blank =
      .ok draft)
    (complete : form.complete .missingField draft = .ok value) :
    form.read (Datum.object entries).outline = .ok value := by
  simp [Form.read, Datum.outline, filled, complete, readEnding, orBroken, Except.mapError, bind,
    Except.bind]

/-! ## The member that names the variant -/

section

open Datum (memberDepth memberOutlines MembersInRange)

variable {variants : List (Variant ρ α)} {levels : Nat} {variant : Variant ρ α} {kind : String}
  {before after own extras entries : List (String × Datum)}

theorem splitTag_untagged (variants : List (Variant ρ α))
    (untagged : ∀ entry ∈ entries, entry.1 ≠ tagName)
    (inRange : MembersInRange entries) (shallow : memberDepth entries ≤ levels)
    (tag : Option (Form ρ α)) :
    splitTag variants levels (memberOutlines entries) tag = .ok (tag, memberOutlines entries) := by
  induction entries with
  | nil => rfl
  | cons entry rest ih =>
      obtain ⟨name, value⟩ := entry
      rw [List.forall_mem_cons] at untagged
      have through := Datum.readThrough_outline value inRange.1
        (Nat.le_trans (Nat.le_max_left ..) shallow)
      have later := ih untagged.2 inRange.2 (Nat.le_trans (Nat.le_max_right ..) shallow)
      simp [memberOutlines, splitTag, through, later, untagged.1, orBroken, Except.mapError, bind,
        Except.bind, pure, Except.pure]

theorem splitTag_tagged (named : findNamed variants (·.name) kind = .ok variant)
    (untagged : ∀ entry ∈ before ++ after, entry.1 ≠ tagName)
    (inRange : MembersInRange (before ++ (tagName, .string kind) :: after))
    (shallow : memberDepth (before ++ (tagName, .string kind) :: after) ≤ levels) :
    splitTag variants levels (memberOutlines (before ++ (tagName, .string kind) :: after)) none =
      .ok (some variant.form, memberOutlines (before ++ after)) := by
  induction before with
  | nil =>
      rw [List.nil_append] at *
      have later := splitTag_untagged variants untagged inRange.2
        (Nat.le_trans (Nat.le_max_right ..) shallow) (some variant.form)
      simp [memberOutlines, Datum.outline, splitTag, readTag, readText, named, later, orBroken,
        Except.mapError, bind, Except.bind, pure, Except.pure]
  | cons entry rest ih =>
      obtain ⟨name, value⟩ := entry
      rw [List.cons_append, List.forall_mem_cons] at untagged
      have through := Datum.readThrough_outline value inRange.1
        (Nat.le_trans (Nat.le_max_left ..) shallow)
      have later := ih untagged.2 inRange.2 (Nat.le_trans (Nat.le_max_right ..) shallow)
      simp [memberOutlines, splitTag, through, later, untagged.1, orBroken, Except.mapError, bind,
        Except.bind, pure, Except.pure]

/-- A record is read from its members, whatever their order and whatever else stands among them.
-/
theorem readVariant_of_members {draft : ρ} {value : α}
    (named : findNamed variants (·.name) kind = .ok variant)
    (orderly : Orderly variant.form.slots)
    (perm : entries.Perm ((tagName, .string kind) :: (own ++ extras)))
    (ownUntagged : ∀ entry ∈ own, entry.1 ≠ tagName)
    (foreign : ∀ extra ∈ extras,
      extra.1 ≠ tagName ∧ ∀ slot ∈ variant.form.slots, slot.name ≠ extra.1)
    (inRange : MembersInRange entries) (shallow : memberDepth entries ≤ levels)
    (filled : fillMembers variant.form.slots (fun _ => .ok ()) (memberOutlines own)
      variant.form.blank = .ok draft)
    (complete : variant.form.complete .missingField draft = .ok value) :
    readVariant variants levels (.object (memberOutlines entries) none) = .ok value := by
  obtain ⟨before, after, rfl⟩ := List.append_of_mem (perm.mem_iff.2 List.mem_cons_self)
  have others : (before ++ after).Perm (own ++ extras) :=
    (List.perm_middle.symm.trans perm).cons_inv
  have untagged : ∀ entry ∈ before ++ after, entry.1 ≠ tagName := by
    intro entry member
    rcases List.mem_append.1 (others.mem_iff.1 member) with isOwn | isExtra
    · exact ownUntagged entry isOwn
    · exact (foreign entry isExtra).1
  have tagged := splitTag_tagged named untagged inRange shallow
  have whole : fillMembers variant.form.slots (fun _ => .ok ()) (memberOutlines (own ++ extras))
      variant.form.blank = .ok draft := by
    rw [Datum.memberOutlines_append, fillMembers_append_ok_iff]
    exact ⟨draft, filled, fillMembers_unknown (fun extra member => (foreign extra member).2)
      fun _ _ => rfl⟩
  have mapped : (memberOutlines (own ++ extras)).Perm (memberOutlines (before ++ after)) := by
    rw [Datum.memberOutlines_eq_map, Datum.memberOutlines_eq_map]
    exact others.symm.map _
  have found := fillMembers_perm orderly mapped whole
  simp [readVariant, tagged, found, complete, readEnding, orBroken, Except.mapError, bind,
    Except.bind]

end

/-! ## Ways to tell a record -/

section

open Datum (MembersInRange memberDepth memberOutlines)

variable {variants : List (Variant ρ α)} {kind : String} {fields : List String} {value : α}
  {own entries extras : List (String × Datum)} {text : List Char} {levels : Nat}

/-- The members of an object make up a record. -/
structure Form.Accepts (form : Form ρ α) (own : List (String × Datum)) (value : α) : Prop where
  orderly : Orderly form.slots
  made : ∃ draft,
    fillMembers form.slots (fun _ => .ok ()) (memberOutlines own) form.blank = .ok draft ∧
      form.complete .missingField draft = .ok value

/-- Next to the name of their kind, members tell a record that has no fields but the given ones.
-/
inductive Tells (variants : List (Variant ρ α)) (kind : String) (fields : List String)
    (own : List (String × Datum)) (value : α) : Prop where
  | intro (form : Form ρ α) (named : findNamed variants (·.name) kind = .ok ⟨kind, form⟩)
      (known : ∀ slot ∈ form.slots, slot.name ∈ fields)
      (untagged : ∀ entry ∈ own, entry.1 ≠ tagName) (accepts : form.Accepts own value)

/-- A text spells an object with certain members in any order. Other members stand among them,
if any, that go by other names than the fields of the record. -/
inductive Shows (own : List (String × Datum)) (fields : List String) (text : List Char) : Prop where
  | intro (members extras : List (String × Datum)) (order : members.Perm (own ++ extras))
      (foreign : ∀ extra ∈ extras, extra.1 ≠ tagName ∧ extra.1 ∉ fields)
      (readable : (Datum.object members).Readable) (spelled : Spells (.object members) text)

theorem Tells.readVariant (tells : Tells variants kind fields own value)
    (order : entries.Perm ((tagName, .string kind) :: (own ++ extras)))
    (foreign : ∀ extra ∈ extras, extra.1 ≠ tagName ∧ extra.1 ∉ fields)
    (inRange : MembersInRange entries) (shallow : memberDepth entries ≤ levels) :
    readVariant variants levels (.object (memberOutlines entries) none) = .ok value := by
  obtain ⟨form, named, known, untagged, accepts⟩ := tells
  obtain ⟨draft, filled, complete⟩ := accepts.made
  have others : ∀ extra ∈ extras,
      extra.1 ≠ tagName ∧ ∀ slot ∈ form.slots, slot.name ≠ extra.1 := by
    intro extra member
    constructor
    · exact (foreign extra member).1
    · intro slot isSlot same
      exact (foreign extra member).2 (same ▸ known slot isSlot)
  exact readVariant_of_members named accepts.orderly order untagged others inRange shallow filled
    complete

/-- A record without lists in it is read as it is written. -/
theorem Tells.readVariant_datum {members : List (String × Json)}
    (tells : Tells variants kind fields (memberData members) value)
    (scalar : ∀ entry ∈ members, entry.2.Scalar) :
    Json.readVariant variants levels
      (Json.object ((tagName, .string kind) :: members)).datum.outline = .ok value := by
  have shallow : memberDepth (memberData members) ≤ levels := by
    rw [memberDepth_of_scalar scalar]
    exact Nat.zero_le levels
  have order : ((tagName, Datum.string kind) :: memberData members).Perm
      ((tagName, .string kind) :: (memberData members ++ [])) := by
    rw [List.append_nil]
  exact tells.readVariant order nofun ⟨trivial, membersInRange_of_scalar scalar⟩
    (Nat.max_le.2 ⟨Nat.zero_le levels, shallow⟩)

/-- A record is read however it is told. -/
theorem Tells.readDocument (tells : Tells variants kind fields own value)
    (shows : Shows ((tagName, .string kind) :: own) fields text) :
    readDocument (Json.readVariant variants (Outline.nestingLimit - 1)) text = .ok value := by
  obtain ⟨members, extras, order, foreign, readable, spelled⟩ := shows
  rw [readDocument_of_spells _ spelled]
  exact tells.readVariant order foreign readable.inRange (Nat.le_of_succ_le_succ readable.shallow)

end

end AppLifecycle.Json
