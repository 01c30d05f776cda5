import AppLifecycle.Handle

/-!
# The session registry

The registry finds sessions by handle or by process. It does not keep sessions alive: an entry
only refers to a session, and a reference leads nowhere once its session is gone. What
references are, and what they lead to, is up to the owner of the sessions. Entries stand in no
order, so a search that goes through them may meet them in any.
-/

namespace AppLifecycle

/-- An index of references to sessions by handle. -/
structure Registry (ρ : Type) where
  entries : KeyMap SessionHandle ρ

namespace Registry

/-- An order in which a search goes through the handles that are entered. -/
structure Walk where
  order : List SessionHandle → List SessionHandle
  /-- Each handle is met once. -/
  perm : ∀ handles, (order handles).Perm handles

/-- Goes through the handles from the smallest on. -/
def Walk.ascending : Walk :=
  ⟨id, fun _ => .refl _⟩

instance : Inhabited Walk := ⟨.ascending⟩

variable {ρ τ : Type}

instance [DecidableEq ρ] : DecidableEq (Registry ρ) := fun left right =>
  decidable_of_iff (left.entries = right.entries) <| by
    cases left
    cases right
    simp

/-- The registry without entries. -/
def empty : Registry ρ :=
  ⟨∅⟩

instance : Inhabited (Registry ρ) := ⟨empty⟩

/-- Enters a session under a handle, in place of the one entered before. -/
def register (registry : Registry ρ) (handle : SessionHandle) (reference : ρ) : Registry ρ :=
  ⟨registry.entries.insert handle reference⟩

/-- Strikes a handle out. -/
def unregister (registry : Registry ρ) (handle : SessionHandle) : Registry ρ :=
  ⟨registry.entries.erase handle⟩

/-- Whether a handle is entered, even if its session is gone. -/
def contains (registry : Registry ρ) (handle : SessionHandle) : Bool :=
  registry.entries.contains handle

/-- The number of handles entered, including those whose session is gone. -/
def size (registry : Registry ρ) : Nat :=
  registry.entries.size

/-- Whether no handle is entered. -/
def isEmpty (registry : Registry ρ) : Bool :=
  registry.entries.isEmpty

/-- The session entered under a handle, if it still lives. -/
def find? (registry : Registry ρ) (resolve : ρ → Option τ) (handle : SessionHandle) : Option τ :=
  (registry.entries.find? handle).bind resolve

/-- The first living session on a walk that passes a test. -/
def findWhere? (registry : Registry ρ) (walk : Walk) (resolve : ρ → Option τ) (test : τ → Bool) :
    Option τ :=
  (walk.order registry.entries.keys).findSome? fun handle =>
    (registry.find? resolve handle).filter test

section Search

variable {registry : Registry ρ} {walk : Walk} {resolve : ρ → Option τ} {test : τ → Bool}
  {found : τ}

/-- What is found on a walk is entered and passes the test. -/
theorem find?_of_findWhere? (sought : registry.findWhere? walk resolve test = some found) :
    test found = true ∧ ∃ handle, registry.find? resolve handle = some found := by
  obtain ⟨handle, _, passed⟩ := List.exists_of_findSome?_eq_some sought
  obtain ⟨entered, passes⟩ := Option.filter_eq_some_iff.1 passed
  exact ⟨passes, handle, entered⟩

/-- A walk misses nobody. -/
theorem findWhere?_eq_none_iff :
    registry.findWhere? walk resolve test = none ↔
      ∀ handle other, registry.find? resolve handle = some other → test other = false := by
  rw [findWhere?, List.findSome?_eq_none_iff]
  constructor
  · intro missed handle other entered
    have listed : handle ∈ registry.entries.keys := by
      rw [← KeyMap.contains_iff_mem_keys, ← KeyMap.find?_isSome]
      cases unlisted : registry.entries.find? handle with
      | some reference => rfl
      | none => simp [find?, unlisted] at entered
    have passed := missed handle ((walk.perm _).mem_iff.2 listed)
    rw [entered] at passed
    simpa using passed
  · intro all handle _
    cases entered : registry.find? resolve handle with
    | none => rfl
    | some other => simp [all handle other entered]

end Search

end Registry

end AppLifecycle
