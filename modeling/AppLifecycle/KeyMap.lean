/-!
# Finite maps in key order

A `KeyMap` is a list of entries in strictly ascending key order. The order is part of the type,
so a map has one form only: two maps that answer every look-up alike are equal
(`KeyMap.ext_find?`). Walking over a map visits its keys in ascending order.
-/

namespace AppLifecycle

universe u v w

/-- A strict total order on keys, decided by a test. -/
class KeyOrder (K : Type u) where
  /-- Whether the first key stands before the second. -/
  before : K → K → Bool
  before_irrefl : ∀ a, before a a = false
  before_trans : ∀ {a b c}, before a b = true → before b c = true → before a c = true
  before_total : ∀ {a b}, before a b = false → before b a = false → a = b

namespace KeyOrder

variable {K : Type u} {L : Type v} [KeyOrder K]

/-- Whether two keys are the same key. -/
def same (a b : K) : Bool :=
  !before a b && !before b a

@[simp]
theorem same_iff {a b : K} : same a b = true ↔ a = b := by
  constructor
  · intro h
    simp only [same, Bool.and_eq_true, Bool.not_eq_true'] at h
    exact before_total h.1 h.2
  · rintro rfl
    simp [same, before_irrefl]

theorem same_eq_false_iff {a b : K} : same a b = false ↔ a ≠ b := by
  rw [← Bool.not_eq_true, same_iff]

theorem before_asymm {a b : K} (h : before a b = true) : before b a = false := by
  cases hb : before b a with
  | false => rfl
  | true => exact absurd (before_trans h hb) (by simp [before_irrefl])

/-- The order that a one-to-one measure takes over from another type of keys. -/
@[reducible]
def ofInjective (measure : L → K) (injective : ∀ {a b}, measure a = measure b → a = b) :
    KeyOrder L where
  before a b := before (measure a) (measure b)
  before_irrefl a := before_irrefl (measure a)
  before_trans h k := before_trans h k
  before_total h k := injective (before_total h k)

instance : KeyOrder Nat where
  before a b := decide (a < b)
  before_irrefl a := by simp
  before_trans h k := by simp only [decide_eq_true_eq] at *; omega
  before_total h k := by simp only [decide_eq_false_iff_not] at *; omega

instance : KeyOrder String where
  before a b := decide (a < b)
  before_irrefl a := decide_eq_false (String.lt_irrefl a)
  before_trans h k := by
    simp only [decide_eq_true_eq] at *
    exact String.lt_trans h k
  before_total h k := by
    simp only [decide_eq_false_iff_not] at *
    exact String.le_antisymm k h

end KeyOrder

/-- A finite map whose entries are listed in ascending key order. -/
@[ext]
structure KeyMap (K : Type u) (V : Type v) [KeyOrder K] where
  /-- The entries, smallest key first. -/
  entries : List (K × V)
  /-- Each key stands before all the keys that follow it. -/
  sorted : entries.Pairwise fun a b => KeyOrder.before a.1 b.1 = true

/-- A finite set of keys in ascending order. -/
abbrev KeySet (K : Type u) [KeyOrder K] :=
  KeyMap K Unit

namespace KeyMap

variable {K : Type u} {V : Type v} {W : Type w} [KeyOrder K]

/-- The map without entries. -/
def empty : KeyMap K V :=
  ⟨[], .nil⟩

instance : EmptyCollection (KeyMap K V) := ⟨empty⟩

instance : Inhabited (KeyMap K V) := ⟨empty⟩

instance [DecidableEq K] [DecidableEq V] : DecidableEq (KeyMap K V) := fun _ _ =>
  decidable_of_iff _ KeyMap.ext_iff.symm

/-- The value at `key`, if the map has one. -/
def find? (map : KeyMap K V) (key : K) : Option V :=
  (map.entries.find? fun entry => KeyOrder.same entry.1 key).map (·.2)

/-- Whether the map has a value at `key`. -/
def contains (map : KeyMap K V) (key : K) : Bool :=
  map.entries.any fun entry => KeyOrder.same entry.1 key

/-- The number of entries. -/
def size (map : KeyMap K V) : Nat :=
  map.entries.length

/-- Whether there is no entry. -/
def isEmpty (map : KeyMap K V) : Bool :=
  map.entries.isEmpty

/-- The keys in ascending order. -/
def keys (map : KeyMap K V) : List K :=
  map.entries.map (·.1)

/-- The values in ascending order of their keys. -/
def values (map : KeyMap K V) : List V :=
  map.entries.map (·.2)

/-- Puts `value` at `key`, in place of the value that stood there before. -/
def insert (map : KeyMap K V) (key : K) (value : V) : KeyMap K V where
  entries :=
    map.entries.filter (fun entry => KeyOrder.before entry.1 key) ++
      (key, value) :: map.entries.filter (fun entry => KeyOrder.before key entry.1)
  sorted := by
    refine List.pairwise_append.2 ⟨map.sorted.filter _, ?_, ?_⟩
    · refine List.pairwise_cons.2 ⟨?_, map.sorted.filter _⟩
      intro entry member
      exact (List.mem_filter.1 member).2
    · intro entry member other otherMember
      have left := (List.mem_filter.1 member).2
      rcases List.mem_cons.1 otherMember with rfl | otherMember
      · exact left
      · exact KeyOrder.before_trans left (List.mem_filter.1 otherMember).2

/-- Takes the entry at `key` away. -/
def erase (map : KeyMap K V) (key : K) : KeyMap K V where
  entries := map.entries.filter fun entry => !KeyOrder.same entry.1 key
  sorted := map.sorted.filter _

/-- Replaces the value at `key`, if there is one, by its image. -/
def modify (map : KeyMap K V) (key : K) (change : V → V) : KeyMap K V where
  entries := map.entries.map fun entry =>
    if KeyOrder.same entry.1 key then (entry.1, change entry.2) else entry
  sorted := by
    refine List.pairwise_map.2 (map.sorted.imp ?_)
    intro a b h
    split <;> split <;> exact h

section Lookup

private theorem find?_entries {entries : List (K × V)}
    (sorted : entries.Pairwise fun a b => KeyOrder.before a.1 b.1 = true) {key : K} {value : V} :
    (entries.find? fun entry => KeyOrder.same entry.1 key).map (·.2) = some value ↔
      (key, value) ∈ entries := by
  induction entries with
  | nil => simp
  | cons head tail ih =>
      obtain ⟨first, rest⟩ := List.pairwise_cons.1 sorted
      rw [List.find?_cons]
      cases same : KeyOrder.same head.1 key with
      | true =>
          obtain rfl := KeyOrder.same_iff.1 same
          simp only [Option.map_some, Option.some.injEq, List.mem_cons]
          constructor
          · rintro rfl
            exact Or.inl rfl
          · rintro (equal | member)
            · rw [← equal]
            · exact absurd (first _ member) (by simp [KeyOrder.before_irrefl])
      | false =>
          simp only [ih rest, List.mem_cons]
          constructor
          · exact Or.inr
          · rintro (equal | member)
            · rw [← equal] at same
              simp [KeyOrder.same, KeyOrder.before_irrefl] at same
            · exact member

/-- A look-up finds exactly the entries. -/
theorem find?_eq_some_iff {map : KeyMap K V} {key : K} {value : V} :
    map.find? key = some value ↔ (key, value) ∈ map.entries :=
  find?_entries map.sorted

theorem contains_iff_mem_keys {map : KeyMap K V} {key : K} :
    map.contains key = true ↔ key ∈ map.keys := by
  simp [contains, keys]

theorem find?_isSome {map : KeyMap K V} {key : K} :
    (map.find? key).isSome = map.contains key := by
  simp only [find?, contains, Option.isSome_map, List.isSome_find?]

@[simp]
theorem find?_empty (key : K) : (∅ : KeyMap K V).find? key = none :=
  rfl

@[simp]
theorem find?_insert_self (map : KeyMap K V) (key : K) (value : V) :
    (map.insert key value).find? key = some value :=
  find?_eq_some_iff.2 (List.mem_append.2 (Or.inr (List.mem_cons_self ..)))

theorem find?_insert_of_ne (map : KeyMap K V) {key other : K} (value : V) (h : other ≠ key) :
    (map.insert key value).find? other = map.find? other := by
  refine Option.ext fun found => ?_
  rw [find?_eq_some_iff, find?_eq_some_iff]
  simp only [insert, List.mem_append, List.mem_cons, List.mem_filter, Prod.mk.injEq, h, false_and,
    false_or]
  rw [← and_or_left, and_iff_left_iff_imp]
  intro _
  cases left : KeyOrder.before other key with
  | true => exact Or.inl rfl
  | false =>
      refine Or.inr ?_
      cases right : KeyOrder.before key other with
      | true => rfl
      | false => exact absurd (KeyOrder.before_total left right) h

@[simp]
theorem find?_erase_self (map : KeyMap K V) (key : K) : (map.erase key).find? key = none := by
  refine Option.eq_none_iff_forall_ne_some.2 fun value found => ?_
  have member := List.mem_filter.1 (find?_eq_some_iff.1 found)
  simp [KeyOrder.same, KeyOrder.before_irrefl] at member

theorem find?_erase_of_ne (map : KeyMap K V) {key other : K} (h : other ≠ key) :
    (map.erase key).find? other = map.find? other := by
  refine Option.ext fun found => ?_
  rw [find?_eq_some_iff, find?_eq_some_iff]
  simp [erase, KeyOrder.same_eq_false_iff.2 h]

@[simp]
theorem find?_modify_self (map : KeyMap K V) (key : K) (change : V → V) :
    (map.modify key change).find? key = (map.find? key).map change := by
  unfold find? modify
  simp only [List.find?_map, Function.comp_def, Option.map_map]
  have test : (fun entry : K × V =>
      KeyOrder.same
        (if KeyOrder.same entry.1 key then (entry.1, change entry.2) else entry).1 key) =
      fun entry => KeyOrder.same entry.1 key := by
    funext entry
    split <;> rfl
  rw [test]
  cases found : map.entries.find? fun entry => KeyOrder.same entry.1 key with
  | none => rfl
  | some entry =>
      have same := List.find?_some found
      simp only [Option.map_some]
      rw [if_pos same]

theorem find?_modify_of_ne (map : KeyMap K V) {key other : K} (change : V → V) (h : other ≠ key) :
    (map.modify key change).find? other = map.find? other := by
  unfold find? modify
  simp only [List.find?_map, Function.comp_def, Option.map_map]
  have test : (fun entry : K × V =>
      KeyOrder.same
        (if KeyOrder.same entry.1 key then (entry.1, change entry.2) else entry).1 other) =
      fun entry => KeyOrder.same entry.1 other := by
    funext entry
    split <;> rfl
  rw [test]
  cases found : map.entries.find? fun entry => KeyOrder.same entry.1 other with
  | none => rfl
  | some entry =>
      have test := List.find?_some found
      have same := KeyOrder.same_iff.1 test
      simp only [Option.map_some]
      rw [if_neg]
      rw [KeyOrder.same_iff, same]
      exact h

private theorem entries_ext {left right : List (K × V)}
    (leftSorted : left.Pairwise fun a b => KeyOrder.before a.1 b.1 = true)
    (rightSorted : right.Pairwise fun a b => KeyOrder.before a.1 b.1 = true)
    (h : ∀ entry, entry ∈ left ↔ entry ∈ right) : left = right := by
  induction left generalizing right with
  | nil =>
      cases right with
      | nil => rfl
      | cons head tail => exact absurd ((h head).2 (List.mem_cons_self ..)) (by simp)
  | cons head tail ih =>
      cases right with
      | nil => exact absurd ((h head).1 (List.mem_cons_self ..)) (by simp)
      | cons other rest =>
          obtain ⟨leftFirst, leftTail⟩ := List.pairwise_cons.1 leftSorted
          obtain ⟨rightFirst, rightTail⟩ := List.pairwise_cons.1 rightSorted
          have equal : head = other := by
            rcases List.mem_cons.1 ((h head).1 (List.mem_cons_self ..)) with equal | member
            · exact equal
            · rcases List.mem_cons.1 ((h other).2 (List.mem_cons_self ..)) with equal | back
              · exact equal.symm
              · have forward := rightFirst _ member
                rw [KeyOrder.before_asymm (leftFirst _ back)] at forward
                exact absurd forward (by simp)
          subst equal
          congr 1
          refine ih leftTail rightTail fun entry => ?_
          constructor
          · intro member
            rcases List.mem_cons.1 ((h entry).1 (List.mem_cons_of_mem _ member)) with rfl | found
            · exact absurd (leftFirst _ member) (by simp [KeyOrder.before_irrefl])
            · exact found
          · intro member
            rcases List.mem_cons.1 ((h entry).2 (List.mem_cons_of_mem _ member)) with rfl | found
            · exact absurd (rightFirst _ member) (by simp [KeyOrder.before_irrefl])
            · exact found

/-- Maps that answer every look-up alike are equal. -/
theorem ext_find? {left right : KeyMap K V} (h : ∀ key, left.find? key = right.find? key) :
    left = right := by
  refine KeyMap.ext (entries_ext left.sorted right.sorted ?_)
  rintro ⟨key, value⟩
  rw [← find?_eq_some_iff, ← find?_eq_some_iff, h]

end Lookup

end KeyMap

namespace KeySet

variable {K : Type u} [KeyOrder K]

/-- Adds a key. -/
def add (set : KeySet K) (key : K) : KeySet K :=
  KeyMap.insert set key ()

/-- The set of the keys in a list. -/
def ofList (keys : List K) : KeySet K :=
  keys.foldl add ∅

end KeySet

end AppLifecycle
