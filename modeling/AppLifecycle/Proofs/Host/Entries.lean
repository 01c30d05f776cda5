import AppLifecycle.Proofs.Host.Environ
import AppLifecycle.Proofs.Utf8.Lenient

/-!
# The entries of an environment

An environment is made of entries, each with a zero byte behind it. The first entry that sets
`APP_ID` to something names the application, and without such an entry there is none
(`appId_of_entries`). Entries of other names change nothing, whatever they are set to.
-/

namespace AppLifecycle.Host

/-- An entry of an environment: any bytes but zero. -/
structure EnvironEntry where
  bytes : List UInt8
  whole : 0 ∉ bytes

namespace EnvironEntry

/-- The byte between a name and a value. -/
def equalsSign : UInt8 :=
  '='.toUInt8

/-- The name of an entry: what stands before its first equals sign. -/
def name (entry : EnvironEntry) : List UInt8 :=
  entry.bytes.takeWhile (· ≠ equalsSign)

/-- An entry that sets `APP_ID` to a value that is not empty. -/
def Sets (entry : EnvironEntry) (value : List UInt8) : Prop :=
  entry.bytes = "APP_ID=".toUTF8.toList ++ value ∧ value ≠ []

/-- The bytes of an environment: a zero byte ends each entry. -/
def block (entries : List EnvironEntry) : List UInt8 :=
  entries.flatMap fun entry => entry.bytes ++ [0]

/-- The first entry that sets `APP_ID` sets it to this value. -/
def FirstSet (entries : List EnvironEntry) (value : List UInt8) : Prop :=
  ∃ before entry after, entries = before ++ entry :: after ∧ entry.Sets value ∧
    ∀ earlier ∈ before, ∀ other, ¬ earlier.Sets other

variable {entry : EnvironEntry} {entries : List EnvironEntry} {value : List UInt8}

/-! ## Names -/

theorem appIdKey_eq : appIdKey = "APP_ID".toUTF8.toList ++ [equalsSign] := by
  rw [appIdKey, Text.toList_toUTF8, Text.toList_toUTF8]
  decide

theorem silent_iff : Silent entry.bytes ↔ ∀ value, ¬ entry.Sets value := by
  simp only [Silent, Sets, appIdKey, not_and, ne_eq, Decidable.not_not]

theorem equalsSign_not_mem : equalsSign ∉ "APP_ID".toUTF8.toList := by
  rw [Text.toList_toUTF8]
  decide

theorem name_of_key (starts : entry.bytes = appIdKey ++ value) :
    entry.name = "APP_ID".toUTF8.toList := by
  have plain : ∀ byte ∈ "APP_ID".toUTF8.toList, decide (byte ≠ equalsSign) = true := by
    intro byte member
    exact decide_eq_true fun equal => equalsSign_not_mem (equal ▸ member)
  rw [name, starts, appIdKey_eq, List.append_assoc, List.takeWhile_append_of_pos plain,
    List.singleton_append, List.takeWhile_cons_of_neg (by simp), List.append_nil]

/-- An entry of another name names no application. -/
theorem silent_of_name_ne (other : entry.name ≠ "APP_ID".toUTF8.toList) : Silent entry.bytes :=
  fun _ starts => absurd (name_of_key starts) other

theorem silent_nil : Silent [] :=
  fun _ empty => (List.append_eq_nil_iff.1 empty.symm).2

/-! ## Reading all entries -/

theorem firstAppId?_cons_congr {entries others : List (List UInt8)}
    (same : firstAppId? entries = firstAppId? others) (entry : List UInt8) :
    firstAppId? (entry :: entries) = firstAppId? (entry :: others) := by
  rcases silent_or_names entry with silent | ⟨value, nonempty, rfl⟩
  · rw [firstAppId?_of_silent silent, firstAppId?_of_silent silent, same]
  · rw [firstAppId?_of_names nonempty, firstAppId?_of_names nonempty]

theorem block_cons (entry : EnvironEntry) (entries : List EnvironEntry) :
    block (entry :: entries) = entry.bytes ++ 0 :: block entries := by
  rw [block, List.flatMap_cons, List.append_assoc, List.singleton_append, block]

/-- The environment is cut into its entries, and the empty piece behind the last zero byte names
nothing. -/
theorem appIdOfEnviron?_block (entries : List EnvironEntry) :
    appIdOfEnviron? (block entries) = firstAppId? (entries.map bytes) := by
  induction entries with
  | nil => exact firstAppId?_of_silent silent_nil []
  | cons entry entries ih =>
      rw [appIdOfEnviron?_eq, block_cons, splitAtZero_append entry.whole, List.map_cons]
      exact firstAppId?_cons_congr ih entry.bytes

theorem appIdOfEnviron?_block_cons_of_silent (silent : Silent entry.bytes)
    (entries : List EnvironEntry) :
    appIdOfEnviron? (block (entry :: entries)) = appIdOfEnviron? (block entries) := by
  rw [appIdOfEnviron?_block, List.map_cons, firstAppId?_of_silent silent, ← appIdOfEnviron?_block]

theorem appIdOfEnviron?_block_cons_of_sets (sets : entry.Sets value)
    (entries : List EnvironEntry) :
    appIdOfEnviron? (block (entry :: entries)) = some (Text.decodeLossy value) := by
  obtain ⟨names, nonempty⟩ := sets
  rw [appIdOfEnviron?_block, List.map_cons, names]
  exact firstAppId?_of_names nonempty _

/-- The first entry that sets `APP_ID` decides. -/
theorem appIdOfEnviron?_of_firstSet (first : FirstSet entries value) :
    appIdOfEnviron? (block entries) = some (Text.decodeLossy value) := by
  obtain ⟨before, entry, after, rfl, sets, earlier⟩ := first
  induction before with
  | nil => exact appIdOfEnviron?_block_cons_of_sets sets after
  | cons other before ih =>
      rw [List.forall_mem_cons] at earlier
      rw [List.cons_append, appIdOfEnviron?_block_cons_of_silent (silent_iff.2 earlier.1),
        ih earlier.2]

theorem appIdOfEnviron?_of_unset (unset : ∀ entry ∈ entries, ∀ value, ¬ entry.Sets value) :
    appIdOfEnviron? (block entries) = none := by
  induction entries with
  | nil => exact firstAppId?_of_silent silent_nil []
  | cons entry entries ih =>
      rw [List.forall_mem_cons] at unset
      rw [appIdOfEnviron?_block_cons_of_silent (silent_iff.2 unset.1), ih unset.2]

/-- Some entry is the first to set `APP_ID`, if any does. -/
theorem firstSet_or_unset (entries : List EnvironEntry) :
    (∃ value, FirstSet entries value) ∨ ∀ entry ∈ entries, ∀ value, ¬ entry.Sets value := by
  induction entries with
  | nil => exact .inr nofun
  | cons entry entries ih =>
      by_cases unset : ∀ value, ¬ entry.Sets value
      · rcases ih with ⟨value, before, first, after, rfl, sets, earlier⟩ | others
        · exact .inl ⟨value, entry :: before, first, after, rfl, sets,
            List.forall_mem_cons.2 ⟨unset, earlier⟩⟩
        · exact .inr (List.forall_mem_cons.2 ⟨unset, others⟩)
      · obtain ⟨value, sets⟩ := Classical.not_forall_not.1 unset
        exact .inl ⟨value, [], entry, entries, rfl, sets, nofun⟩

/-- Entries of other names can be left out. -/
theorem appIdOfEnviron?_filter (entries : List EnvironEntry) :
    appIdOfEnviron? (block (entries.filter (·.name = "APP_ID".toUTF8.toList))) =
      appIdOfEnviron? (block entries) := by
  rw [appIdOfEnviron?_block, appIdOfEnviron?_block]
  induction entries with
  | nil => rfl
  | cons entry entries ih =>
      by_cases named : entry.name = "APP_ID".toUTF8.toList
      · rw [List.filter_cons_of_pos (by simpa using named)]
        exact firstAppId?_cons_congr ih entry.bytes
      · rw [List.filter_cons_of_neg (by simpa using named), ih, List.map_cons,
          firstAppId?_of_silent (silent_of_name_ne named)]

/-- What an environment says of the application, for any entries: the value that `APP_ID` is first
set to, read as UTF-8 with a replacement character for each invalid part, and nothing without such
a value. The name is the value itself exactly when that is valid, and never empty. Neither entries
of other names nor later entries have a part in it. -/
theorem appId_of_entries (entries : List EnvironEntry) :
    (∀ appId, appIdOfEnviron? (block entries) = some appId ↔
      ∃ value, FirstSet entries value ∧ Text.Decodes value appId.toList) ∧
    (appIdOfEnviron? (block entries) = none ↔
      ∀ entry ∈ entries, ∀ value, ¬ entry.Sets value) ∧
    (∀ value, FirstSet entries value → ∃ appId, appIdOfEnviron? (block entries) = some appId ∧
      (appId.toUTF8.toList = value ↔ Text.Valid value)) ∧
    appIdOfEnviron? (block entries) ≠ some "" ∧
    appIdOfEnviron? (block (entries.filter (·.name = "APP_ID".toUTF8.toList))) =
      appIdOfEnviron? (block entries) := by
  refine ⟨fun appId => ⟨fun read => ?_, ?_⟩, ⟨fun absent => ?_, appIdOfEnviron?_of_unset⟩,
    fun value first => ⟨_, appIdOfEnviron?_of_firstSet first, Text.toUTF8_decodeLossy_iff⟩, ?_,
    appIdOfEnviron?_filter entries⟩
  · rcases firstSet_or_unset entries with ⟨value, first⟩ | unset
    · rw [appIdOfEnviron?_of_firstSet first, Option.some.injEq] at read
      exact ⟨value, first, Text.decodes_iff.2 read⟩
    · rw [appIdOfEnviron?_of_unset unset] at read
      contradiction
  · rintro ⟨value, first, decodes⟩
    rw [appIdOfEnviron?_of_firstSet first, Text.decodes_iff.1 decodes]
  · rcases firstSet_or_unset entries with ⟨value, first⟩ | unset
    · rw [appIdOfEnviron?_of_firstSet first] at absent
      contradiction
    · exact unset
  · intro empty
    exact (appIdOfEnviron?_eq_some_iff.1 empty).ne_empty rfl

end EnvironEntry

end AppLifecycle.Host
