import AppLifecycle.Host.Environ
import AppLifecycle.Proofs.Utf8

/-!
# What an environment says

An environment is its entries with a zero byte after each; what follows the last zero byte counts
as an entry too. It launches an application if some entry names one, and then it is the first
such entry that counts (`appIdOfEnviron?_eq_some_iff`). The name is never empty.
-/

namespace AppLifecycle

namespace Text

theorem decodeLossy_ne_empty {bytes : List UInt8} (nonempty : bytes ≠ []) :
    decodeLossy bytes ≠ "" := by
  cases bytes with
  | nil => exact absurd rfl nonempty
  | cons first rest => simp [decodeLossy, utf8Pieces]

end Text

namespace Host

variable {environ entry rest : List UInt8} {name : String}

/-! ## Entries -/

/-- An environment is one entry, or starts with an entry that a zero byte ends. -/
theorem entry_or_entries (environ : List UInt8) :
    0 ∉ environ ∨ ∃ entry rest, environ = entry ++ 0 :: rest ∧ 0 ∉ entry := by
  by_cases member : 0 ∈ environ
  · exact .inr (List.eq_append_cons_of_mem member)
  · exact .inl member

theorem splitAtZero_entry (whole : 0 ∉ entry) : splitAtZero entry = [entry] := by
  induction entry with
  | nil => rfl
  | cons byte entry ih =>
      rw [List.mem_cons, not_or] at whole
      rw [splitAtZero, if_neg (Ne.symm whole.1), ih whole.2]

theorem splitAtZero_append (whole : 0 ∉ entry) (rest : List UInt8) :
    splitAtZero (entry ++ 0 :: rest) = entry :: splitAtZero rest := by
  induction entry with
  | nil => rfl
  | cons byte entry ih =>
      rw [List.mem_cons, not_or] at whole
      rw [List.cons_append, splitAtZero, if_neg (Ne.symm whole.1), ih whole.2]

/-! ## The entry that names the application -/

theorem appIdValue?_eq_some_iff {value : List UInt8} :
    appIdValue? entry = some value ↔ entry = appIdKey ++ value := by
  unfold appIdValue?
  constructor
  · intro read
    split at read
    · rename_i starts
      obtain ⟨value, rfl⟩ := List.isPrefixOf_iff_prefix.1 starts
      rw [List.drop_left, Option.some.injEq] at read
      rw [read]
    · contradiction
  · rintro rfl
    rw [if_pos (List.isPrefixOf_iff_prefix.2 (List.prefix_append ..)), List.drop_left]

/-- An entry that names no application: another variable, or this one left empty. -/
def Silent (entry : List UInt8) : Prop :=
  ∀ value, entry = appIdKey ++ value → value = []

/-- An environment whose first entry that names an application names this one. -/
inductive LaunchedAs : List UInt8 → String → Prop where
  | last {value : List UInt8} (nonempty : value ≠ []) (whole : 0 ∉ value) :
      LaunchedAs (appIdKey ++ value) (Text.decodeLossy value)
  | first {value : List UInt8} (nonempty : value ≠ []) (whole : 0 ∉ value) (rest : List UInt8) :
      LaunchedAs (appIdKey ++ value ++ 0 :: rest) (Text.decodeLossy value)
  | later {entry rest : List UInt8} {name : String} (whole : 0 ∉ entry) (silent : Silent entry)
      (launched : LaunchedAs rest name) : LaunchedAs (entry ++ 0 :: rest) name

theorem LaunchedAs.ne_empty (launched : LaunchedAs environ name) : name ≠ "" := by
  induction launched with
  | last nonempty | first nonempty => exact Text.decodeLossy_ne_empty nonempty
  | later _ _ _ ih => exact ih

theorem silent_or_names (entry : List UInt8) :
    Silent entry ∨ ∃ value, value ≠ [] ∧ entry = appIdKey ++ value := by
  cases read : appIdValue? entry with
  | none =>
      left
      intro value equal
      rw [appIdValue?_eq_some_iff.2 equal] at read
      contradiction
  | some value =>
      have equal := appIdValue?_eq_some_iff.1 read
      cases value with
      | nil =>
          left
          rintro value rfl
          exact List.append_cancel_left equal
      | cons byte value => exact .inr ⟨byte :: value, List.cons_ne_nil byte value, equal⟩

theorem appIdKey_whole : 0 ∉ appIdKey := by
  rw [appIdKey, Text.toList_toUTF8]
  decide

/-! ## Searching the entries -/

/-- What the search finds among entries that are cut apart. -/
def firstAppId? (entries : List (List UInt8)) : Option String :=
  ((entries.filterMap appIdValue?).find? fun value => !value.isEmpty).map Text.decodeLossy

theorem appIdOfEnviron?_eq : appIdOfEnviron? environ = firstAppId? (splitAtZero environ) :=
  rfl

theorem firstAppId?_of_silent (silent : Silent entry) (entries : List (List UInt8)) :
    firstAppId? (entry :: entries) = firstAppId? entries := by
  cases read : appIdValue? entry with
  | none => rw [firstAppId?, List.filterMap_cons_none read, firstAppId?]
  | some value =>
      obtain rfl := silent value (appIdValue?_eq_some_iff.1 read)
      rw [firstAppId?, List.filterMap_cons_some read]
      rfl

theorem firstAppId?_of_names {value : List UInt8} (nonempty : value ≠ [])
    (entries : List (List UInt8)) :
    firstAppId? ((appIdKey ++ value) :: entries) = some (Text.decodeLossy value) := by
  have read : appIdValue? (appIdKey ++ value) = some value := appIdValue?_eq_some_iff.2 rfl
  rw [firstAppId?, List.filterMap_cons_some read]
  simp [nonempty]

theorem whole_names {value : List UInt8} (whole : 0 ∉ value) : 0 ∉ appIdKey ++ value := by
  rw [List.mem_append, not_or]
  exact ⟨appIdKey_whole, whole⟩

theorem LaunchedAs.appIdOfEnviron? (launched : LaunchedAs environ name) :
    appIdOfEnviron? environ = some name := by
  induction launched with
  | last nonempty whole =>
      rw [appIdOfEnviron?_eq, splitAtZero_entry (whole_names whole),
        firstAppId?_of_names nonempty]
  | first nonempty whole rest =>
      rw [appIdOfEnviron?_eq, splitAtZero_append (whole_names whole),
        firstAppId?_of_names nonempty]
  | later whole silent launched ih =>
      rw [appIdOfEnviron?_eq, splitAtZero_append whole, firstAppId?_of_silent silent, ← ih]
      rfl

theorem launchedAs_of_appIdOfEnviron? (environ : List UInt8)
    (read : appIdOfEnviron? environ = some name) : LaunchedAs environ name := by
  rw [appIdOfEnviron?_eq] at read
  rcases entry_or_entries environ with whole | ⟨entry, rest, rfl, whole⟩
  · rw [splitAtZero_entry whole] at read
    rcases silent_or_names environ with silent | ⟨value, nonempty, rfl⟩
    · rw [firstAppId?_of_silent silent] at read
      contradiction
    · rw [firstAppId?_of_names nonempty, Option.some.injEq] at read
      subst read
      exact .last nonempty fun member => whole (List.mem_append_right _ member)
  · rw [splitAtZero_append whole] at read
    rcases silent_or_names entry with silent | ⟨value, nonempty, rfl⟩
    · rw [firstAppId?_of_silent silent] at read
      exact .later whole silent (launchedAs_of_appIdOfEnviron? rest read)
    · rw [firstAppId?_of_names nonempty, Option.some.injEq] at read
      subst read
      exact .first nonempty (fun member => whole (List.mem_append_right _ member)) rest
  termination_by environ.length

/-- The search finds the first name that is not empty, if there is one. -/
theorem appIdOfEnviron?_eq_some_iff :
    appIdOfEnviron? environ = some name ↔ LaunchedAs environ name :=
  ⟨launchedAs_of_appIdOfEnviron? environ, LaunchedAs.appIdOfEnviron?⟩

end Host

end AppLifecycle
