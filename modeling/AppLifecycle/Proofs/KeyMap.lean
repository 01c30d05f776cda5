import AppLifecycle.KeyMap

/-!
# Facts on finite maps

What the operations on a `KeyMap` do is said through look-ups, each by one equation that holds
at every key. The keys and the values of a map are those that look-ups find, and maps with the
same keys have the same size.
-/

namespace AppLifecycle.KeyMap

universe u v w

variable {K : Type u} {V : Type v} {W : Type w} [KeyOrder K]

/-! ## Look-ups after an operation -/

section Lookup

variable [DecidableEq K]

theorem find?_insert (map : KeyMap K V) (key : K) (value : V) (other : K) :
    (map.insert key value).find? other = if other = key then some value else map.find? other := by
  split
  · rename_i equal
    rw [equal, find?_insert_self]
  · rename_i different
    exact find?_insert_of_ne map value different

theorem find?_erase (map : KeyMap K V) (key other : K) :
    (map.erase key).find? other = if other = key then none else map.find? other := by
  split
  · rename_i equal
    rw [equal, find?_erase_self]
  · rename_i different
    exact find?_erase_of_ne map different

theorem find?_modify (map : KeyMap K V) (key : K) (change : V → V) (other : K) :
    (map.modify key change).find? other =
      if other = key then (map.find? key).map change else map.find? other := by
  split
  · rename_i equal
    rw [equal, find?_modify_self]
  · rename_i different
    exact find?_modify_of_ne map change different

/-- Keys may be taken away one after the other. -/
theorem find?_foldl_erase (keys : List K) (map : KeyMap K V) (other : K) :
    (keys.foldl erase map).find? other = if other ∈ keys then none else map.find? other := by
  induction keys generalizing map with
  | nil => simp
  | cons key rest ih =>
      rw [List.foldl_cons, ih, find?_erase]
      by_cases equal : other = key
      · simp [equal]
      · simp [equal]

/-! ## Membership after an operation -/

theorem contains_insert (map : KeyMap K V) (key : K) (value : V) (other : K) :
    (map.insert key value).contains other = (decide (other = key) || map.contains other) := by
  rw [← find?_isSome, find?_insert, ← find?_isSome]
  by_cases equal : other = key <;> simp [equal]

theorem contains_erase (map : KeyMap K V) (key other : K) :
    (map.erase key).contains other = (!decide (other = key) && map.contains other) := by
  rw [← find?_isSome, find?_erase, ← find?_isSome]
  by_cases equal : other = key <;> simp [equal]

theorem contains_foldl_erase (keys : List K) (map : KeyMap K V) (other : K) :
    (keys.foldl erase map).contains other = (!decide (other ∈ keys) && map.contains other) := by
  rw [← find?_isSome, find?_foldl_erase, ← find?_isSome]
  by_cases member : other ∈ keys <;> simp [member]

end Lookup

/-! ## Keys and values -/

theorem contains_eq_false_iff {map : KeyMap K V} {key : K} :
    map.contains key = false ↔ map.find? key = none := by
  rw [← find?_isSome, Option.isSome_eq_false_iff, Option.isNone_iff_eq_none]

theorem mem_keys_iff {map : KeyMap K V} {key : K} :
    key ∈ map.keys ↔ ∃ value, map.find? key = some value := by
  rw [← contains_iff_mem_keys, ← find?_isSome, Option.isSome_iff_exists]

theorem mem_values_iff {map : KeyMap K V} {value : V} :
    value ∈ map.values ↔ ∃ key, map.find? key = some value := by
  simp only [values, List.mem_map, find?_eq_some_iff]
  constructor
  · rintro ⟨⟨key, _⟩, member, rfl⟩
    exact ⟨key, member⟩
  · rintro ⟨key, member⟩
    exact ⟨(key, value), member, rfl⟩

/-- Sets with the same members are equal. -/
theorem ext_contains {left right : KeySet K} (h : ∀ key, left.contains key = right.contains key) :
    left = right := by
  apply ext_find?
  intro key
  have same := h key
  rw [← find?_isSome, ← find?_isSome] at same
  cases leftFound : left.find? key <;> cases rightFound : right.find? key <;> simp_all

theorem nodup_keys (map : KeyMap K V) : map.keys.Nodup := by
  apply List.pairwise_map.2
  apply map.sorted.imp
  intro first second before equal
  rw [equal, KeyOrder.before_irrefl] at before
  exact Bool.false_ne_true before

/-! ## Maps over the same keys -/

/-- The same keys with the images of their values. -/
def mapValues (map : KeyMap K V) (image : V → W) : KeyMap K W where
  entries := map.entries.map fun entry => (entry.1, image entry.2)
  sorted := List.pairwise_map.2 map.sorted

@[simp]
theorem entries_mapValues (map : KeyMap K V) (image : V → W) :
    (map.mapValues image).entries = map.entries.map fun entry => (entry.1, image entry.2) :=
  rfl

@[simp]
theorem find?_mapValues (map : KeyMap K V) (image : V → W) (key : K) :
    (map.mapValues image).find? key = (map.find? key).map image := by
  simp [find?, mapValues, List.find?_map, Function.comp_def]

/-- Maps with the same keys have the same size. -/
theorem size_eq_of_isSome_eq {left : KeyMap K V} {right : KeyMap K W}
    (h : ∀ key, (left.find? key).isSome = (right.find? key).isSome) : left.size = right.size := by
  have shadows : left.mapValues (fun _ => ()) = right.mapValues fun _ => () := by
    apply ext_find?
    intro key
    have same := h key
    rw [find?_mapValues, find?_mapValues]
    cases leftFound : left.find? key <;> cases rightFound : right.find? key <;>
      simp_all
  have lengths := congrArg (fun map : KeyMap K Unit => map.entries.length) shadows
  simpa [size] using lengths

end AppLifecycle.KeyMap

namespace AppLifecycle.KeySet

universe u

variable {K : Type u} [KeyOrder K] [DecidableEq K]

theorem contains_foldl_add (keys : List K) (set : KeySet K) (other : K) :
    (keys.foldl add set).contains other = (decide (other ∈ keys) || set.contains other) := by
  induction keys generalizing set with
  | nil => simp
  | cons key rest ih =>
      rw [List.foldl_cons, ih, add, KeyMap.contains_insert]
      by_cases equal : other = key <;> simp [equal]

/-- A set made of a list has its members and no others. -/
theorem contains_ofList {keys : List K} {key : K} :
    (ofList keys).contains key = true ↔ key ∈ keys := by
  have none : (∅ : KeySet K).contains key = false :=
    KeyMap.contains_eq_false_iff.2 (KeyMap.find?_empty key)
  rw [ofList, contains_foldl_add, none, Bool.or_false, decide_eq_true_iff]

end AppLifecycle.KeySet
