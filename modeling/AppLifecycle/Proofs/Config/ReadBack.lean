import AppLifecycle.Command.Run
import AppLifecycle.Proofs.Json.Indenting
import AppLifecycle.Proofs.Json.Records
import AppLifecycle.Proofs.Utf8

/-!
# Configurations are read back

A configuration can be written in many ways: its members may stand in any order, those that have
their default values may be left out (`Abridges`), and members that it does not know may stand
among them. However a configuration is written, it is read back as what it is; so what is printed
of a configuration that has been checked passes the check again and comes out the same
(`config_read_back`).
-/

namespace AppLifecycle

open Json (Datum Field Orderly Outline Spells fillMembers memberData readDocument)

variable {β : Type}

namespace Json

/-- Members of which some are left out, but only such as stand in a list of standard ones in the
same place. -/
inductive Abridges : List (String × Json) → List (String × Json) → List (String × Json) → Prop where
  | nil : Abridges [] [] []
  | written {members standards own : List (String × Json)} (member standard : String × Json)
      (rest : Abridges members standards own) :
      Abridges (member :: members) (standard :: standards) (member :: own)
  | leftOut {members standards own : List (String × Json)} (member : String × Json)
      (rest : Abridges members standards own) :
      Abridges (member :: members) (member :: standards) own

theorem Abridges.refl {standards : List (String × Json)} (members : List (String × Json))
    (same : standards.length = members.length) : Abridges members standards members := by
  induction members generalizing standards with
  | nil =>
      obtain rfl := List.length_eq_zero_iff.1 same
      exact .nil
  | cons member rest ih =>
      cases standards with
      | nil => contradiction
      | cons standard standards => exact .written member standard (ih (Nat.succ.inj same))

end Json

open Json (Abridges)

namespace LifecycleConfig

variable {config : LifecycleConfig} {files : FileStore} {path text : String}
  {own others standards : List (String × Json)} {entries extras : List (String × Datum)}

/-! ## The members of a configuration -/

/-- The members of a configuration that is written with all its fields. -/
def members (config : LifecycleConfig) : List (String × Json) :=
  [("throttleSuspendedSurfaces", .bool config.throttleSuspendedSurfaces),
    ("exemptAppIds", idsToJson config.exemptAppIds),
    ("wakelock", .bool config.wakelock),
    ("denyAppIds", idsToJson config.denyAppIds),
    ("requireLiveProcess", .bool config.requireLiveProcess)]

/-- The names of all members. -/
def declared : List String :=
  form.slots.map (·.name)

theorem toJson_eq (config : LifecycleConfig) : config.toJson = .object config.members :=
  rfl

theorem read_idsToJson (ids : List String) :
    Json.readArray Json.readText (idsToJson ids).datum.outline = .ok ids :=
  Json.readArray_datum .string (fun _ => rfl) ids

theorem orderly_form : Orderly form.slots := by
  constructor
  · simp only [form, List.forall_mem_cons, List.not_mem_nil, false_implies, implies_true,
      and_true]
    refine ⟨?_, ?_, ?_, ?_, ?_⟩ <;> exact Field.Lawful.slot fun _ _ => rfl
  · simp only [form, List.pairwise_cons, List.forall_mem_cons, List.not_mem_nil, false_implies,
      implies_true, and_true, List.Pairwise.nil]
    refine ⟨⟨?_, ?_, ?_, ?_⟩, ⟨?_, ?_, ?_⟩, ⟨?_, ?_⟩, ?_⟩ <;>
      exact Field.Apart.slot ⟨fun _ _ _ => rfl, fun _ _ => rfl, fun _ _ => rfl⟩

/-! ## Reading the members -/

/-- What is read of members. -/
def fill (own : List (String × Json)) (draft : Draft) : Except Json.ReadError Draft :=
  fillMembers form.slots Outline.skip (Datum.memberOutlines (memberData own)) draft

/-- The first member is put into the draft, or it is left out and has its default. -/
theorem fill_abridged (field : Field Draft β) {value standard : Json} {found default : β}
    (abridges : Abridges ((field.name, value) :: others) ((field.name, standard) :: standards) own)
    (reads : field.read value.datum.outline = .ok found)
    (readsStandard : field.read standard.datum.outline = .ok default)
    (listed : form.slots.find? (fun slot => slot.name = field.name) = some field.slot)
    (draft : Option β → Draft) (absent : field.get (draft none) = none)
    (puts : ∀ value, field.put (draft none) value = draft (some value)) :
    ∃ given rest, given.getD default = found ∧ Abridges others standards rest ∧
      fill own (draft none) = fill rest (draft given) := by
  cases abridges with
  | @written _ _ rest _ _ later =>
      refine ⟨some found, rest, rfl, later, ?_⟩
      rw [← puts]
      exact Json.fillMembers_field field reads listed absent
  | leftOut _ later =>
      refine ⟨none, own, ?_, later, rfl⟩
      exact Except.ok.inj (readsStandard.symm.trans reads)

theorem fill_of_abridges (abridges : Abridges config.members ({} : LifecycleConfig).members own) :
    ∃ draft, fill own {} = .ok draft ∧ ofDraft draft = config := by
  -- Field by field the draft takes what is given and the configuration turns into what was taken.
  obtain ⟨throttle, exempt, wakelock, deny, requireLive⟩ := config
  obtain ⟨throttle, _, rfl, abridges, first⟩ := fill_abridged throttleField abridges rfl rfl rfl
    (fun given => { throttleSuspendedSurfaces := given }) rfl fun _ => rfl
  obtain ⟨exempt, _, rfl, abridges, second⟩ := fill_abridged exemptField abridges
    (read_idsToJson exempt) (read_idsToJson []) rfl
    (fun given => { throttleSuspendedSurfaces := throttle, exemptAppIds := given }) rfl
    fun _ => rfl
  obtain ⟨wakelock, _, rfl, abridges, third⟩ := fill_abridged wakelockField abridges rfl rfl rfl
    (fun given =>
      { throttleSuspendedSurfaces := throttle, exemptAppIds := exempt, wakelock := given }) rfl
    fun _ => rfl
  obtain ⟨deny, _, rfl, abridges, fourth⟩ := fill_abridged denyField abridges
    (read_idsToJson deny) (read_idsToJson []) rfl
    (fun given =>
      { throttleSuspendedSurfaces := throttle, exemptAppIds := exempt, wakelock := wakelock
        denyAppIds := given }) rfl
    fun _ => rfl
  obtain ⟨requireLive, _, rfl, abridges, fifth⟩ := fill_abridged requireLiveField abridges rfl rfl
    rfl
    (fun given =>
      { throttleSuspendedSurfaces := throttle, exemptAppIds := exempt, wakelock := wakelock
        denyAppIds := deny, requireLiveProcess := given }) rfl
    fun _ => rfl
  cases abridges with
  | nil => exact ⟨_, (((first.trans second).trans third).trans fourth).trans fifth, rfl⟩

/-- A configuration is read from its members, whatever their order and whatever else stands among
them. -/
theorem read_of_abridges (abridges : Abridges config.members ({} : LifecycleConfig).members own)
    (foreign : ∀ extra ∈ extras, extra.1 ∉ declared)
    (order : entries.Perm (memberData own ++ extras)) :
    read (Datum.object entries).outline = .ok config := by
  obtain ⟨draft, filled, rfl⟩ := fill_of_abridges abridges
  have unknown : ∀ extra ∈ extras, ∀ slot ∈ form.slots, slot.name ≠ extra.1 := by
    intro extra member slot isSlot same
    exact foreign extra member (List.mem_map.2 ⟨slot, isSlot, same⟩)
  have whole : fillMembers form.slots Outline.skip (Datum.memberOutlines (memberData own ++ extras))
      form.blank = .ok draft := by
    rw [Datum.memberOutlines_append, Json.fillMembers_append_ok_iff]
    exact ⟨draft, filled, Json.fillMembers_unknown unknown fun extra _ => extra.2.skip_outline⟩
  have mapped : (Datum.memberOutlines (memberData own ++ extras)).Perm
      (Datum.memberOutlines entries) := by
    rw [Datum.memberOutlines_eq_map, Datum.memberOutlines_eq_map]
    exact order.symm.map _
  exact Json.Form.read_of_members (Json.fillMembers_perm orderly_form mapped whole) rfl

/-! ## Loading a configuration -/

theorem load_eq_ok_iff :
    load files path = .ok config ↔ ∃ text, files.readText path = .ok text ∧
      readDocument read text.toList = .ok config ∧ config.validate = .ok () := by
  simp only [load, parse, Json.bind_ok_iff, Json.mapError_ok_iff]
  constructor
  · rintro ⟨text, given, checked, reads, _, valid, ⟨⟩⟩
    exact ⟨text, given, reads, valid⟩
  · rintro ⟨text, given, reads, valid⟩
    exact ⟨text, given, config, reads, (), valid, rfl⟩

theorem readText_of_bytes (stored : files path = .ok text.toUTF8.toList) :
    files.readText path = .ok text := by
  rw [FileStore.readText, stored, Json.bind_ok_iff]
  refine ⟨_, rfl, ?_⟩
  rw [Text.decodeStrict?_toUTF8]

/-- A valid configuration is loaded from any text that gives it. -/
theorem load_of_abridges (valid : config.validate = .ok ())
    (abridges : Abridges config.members ({} : LifecycleConfig).members own)
    (foreign : ∀ extra ∈ extras, extra.1 ∉ declared)
    (order : entries.Perm (memberData own ++ extras))
    (spelled : Spells (.object entries) text.toList)
    (stored : files path = .ok text.toUTF8.toList) : load files path = .ok config := by
  refine load_eq_ok_iff.2 ⟨text, readText_of_bytes stored, ?_, valid⟩
  rw [Json.readDocument_of_spells read spelled]
  exact read_of_abridges abridges foreign order

theorem outcome_checkConfig (loads : load files path = .ok config) (processes : ProcessTable) :
    Command.outcome files processes (.checkConfig path) =
      ⟨Command.outputOf [config.printed], "", 0⟩ := by
  simp [Command.outcome, Command.run, loads, Except.mapError, bind, Except.bind, pure,
    Except.pure]

theorem spells_output (config : LifecycleConfig) :
    Spells (.object (memberData config.members))
      (Command.outputOf [config.printed]).toList := by
  have newline : Json.Space ['\n'] := by
    simp [Json.Space]
  have output : (Command.outputOf [config.printed]).toList =
      config.toJson.indented.toList ++ ['\n'] := by
    simp [Command.outputOf, printed, String.join]
  rw [output, toJson_eq]
  exact Json.spells_indented (.object config.members) newline

/-- What is checked and printed of a configuration file is a configuration file again, and checking
it once more prints the same. The configuration is also loaded from every file that holds its
members, in any order, without some or all of those that have their default values, and with any
members under other names among them. -/
theorem config_read_back (loads : load files path = .ok config) (processes : ProcessTable) :
    let checked := Command.outcome files processes (.checkConfig path)
    checked = ⟨Command.outputOf [config.printed], "", 0⟩ ∧
    (∀ (later : FileStore) place, later place = .ok checked.output.toUTF8.toList →
      load later place = .ok config ∧
        ∀ others, Command.outcome later others (.checkConfig place) = checked) ∧
    (∀ own extras entries (text : String) (later : FileStore) place,
      Abridges config.members ({} : LifecycleConfig).members own →
      (∀ extra ∈ extras, extra.1 ∉ declared) →
      entries.Perm (memberData own ++ extras) → Spells (.object entries) text.toList →
      later place = .ok text.toUTF8.toList → load later place = .ok config) := by
  intro checked
  have printed : checked = ⟨Command.outputOf [config.printed], "", 0⟩ :=
    outcome_checkConfig loads processes
  obtain ⟨_, _, _, valid⟩ := load_eq_ok_iff.1 loads
  refine ⟨printed, ?_, ?_⟩
  · intro later place stored
    rw [printed] at stored ⊢
    have again : load later place = .ok config :=
      load_of_abridges valid (.refl config.members rfl) (List.forall_mem_nil _)
        (by rw [List.append_nil]) (spells_output config) stored
    exact ⟨again, outcome_checkConfig again⟩
  · intro own extras entries text later place abridges foreign order spelled stored
    exact load_of_abridges valid abridges foreign order spelled stored

/-- A file with one member that counts, behind one that is not known, is printed with all members
and read back from there. -/
theorem sparse_config_read_back :
    let config : LifecycleConfig := { denyAppIds := ["\"a\""] }
    let text := (Json.object
      [("note", .array [.null]), ("denyAppIds", idsToJson config.denyAppIds)]).compact
    let files : FileStore := fun _ => .ok text.toUTF8.toList
    let checked := Command.outcome files .empty (.checkConfig "config.json")
    load files "config.json" = .ok config ∧
      checked.output =
        "\x7b\n  \"throttleSuspendedSurfaces\": false,\n  \"exemptAppIds\": [],\n" ++
          "  \"wakelock\": true,\n  \"denyAppIds\": [\n    \"\\\"a\\\"\"\n  ],\n" ++
          "  \"requireLiveProcess\": false\n\x7d\n" ∧
      load (fun _ => .ok checked.output.toUTF8.toList) "config.json" = .ok config := by
  intro config text files checked
  have abridges : Abridges config.members ({} : LifecycleConfig).members
      [("denyAppIds", idsToJson config.denyAppIds)] :=
    .leftOut _ (.leftOut _ (.leftOut _ (.written _ _ (.leftOut _ .nil))))
  have foreign : ∀ extra ∈ [("note", Datum.array [.null])], extra.1 ∉ declared := by
    decide
  have spelled : Spells
      (.object (memberData [("note", .array [.null]), ("denyAppIds", idsToJson config.denyAppIds)]))
      text.toList := by
    rw [show text.toList = _ from String.toList_ofList]
    exact Json.spells_compact rfl
  have loads : load files "config.json" = .ok config :=
    load_of_abridges rfl abridges foreign (.swap ..) spelled rfl
  obtain ⟨printed, again, _⟩ := config_read_back loads .empty
  refine ⟨loads, ?_, (again _ "config.json" rfl).1⟩
  rw [show checked.output = _ from congrArg (·.output) printed]
  decide +kernel

end LifecycleConfig

end AppLifecycle
