import AppLifecycle.Command.Run
import AppLifecycle.Proofs.Json.Records
import AppLifecycle.Proofs.KeyMap
import AppLifecycle.Proofs.Quoted

/-!
# Valid configurations

A configuration is valid if each id that it lists has a character that is no white space, and no
application is both exempt and refused; of what is wrong with it the first is named, blank ids
before conflicts. The authorizer of a configuration goes by sets that are made once, and decides
as the lists do. So under a valid configuration, whatever the command line has added to it, an
exempt application is refused over its process only (`validity_and_admission`).
-/

namespace AppLifecycle.LifecycleConfig

variable {α : Type} {config : LifecycleConfig} {appId : String}

/-! ## The first of a list -/

/-- The first item of a list that has a property. -/
def IsFirst (property : α → Prop) (items : List α) (first : α) : Prop :=
  ∃ before after, items = before ++ first :: after ∧ property first ∧
    ∀ other ∈ before, ¬ property other

theorem find?_eq_some_iff_isFirst {property : α → Prop} {test : α → Bool}
    (tests : ∀ item, test item = true ↔ property item) {items : List α} {first : α} :
    items.find? test = some first ↔ IsFirst property items first := by
  simp only [List.find?_eq_some_iff_append, IsFirst, tests, Bool.not_eq_true',
    ← Bool.not_eq_true]
  constructor
  · rintro ⟨found, before, after, whole, passed⟩
    exact ⟨before, after, whole, found, passed⟩
  · rintro ⟨before, after, whole, found, passed⟩
    exact ⟨found, before, after, whole, passed⟩

theorem find?_eq_none_iff_forall {property : α → Prop} {test : α → Bool}
    (tests : ∀ item, test item = true ↔ property item) {items : List α} :
    items.find? test = none ↔ ∀ item ∈ items, ¬ property item := by
  simp only [List.find?_eq_none, tests]

/-! ## What is wrong with a configuration -/

/-- An id without any character but white space. -/
def Blank (id : String) : Prop :=
  ∀ c ∈ id.toList, Text.isBlankChar c = true

theorem isBlank_iff_blank (id : String) : Text.isBlank id.toList = true ↔ Blank id :=
  List.all_eq_true

theorem not_blank_iff {id : String} :
    ¬ Blank id ↔ ∃ c ∈ id.toList, Text.isBlankChar c = false := by
  simp [Blank]

/-- All ids that a configuration lists, exempt ones first. -/
def listed (config : LifecycleConfig) : List String :=
  config.exemptAppIds ++ config.denyAppIds

theorem firstBlank?_eq_some_iff {id : String} :
    config.firstBlank? = some id ↔ IsFirst Blank config.listed id :=
  find?_eq_some_iff_isFirst isBlank_iff_blank

theorem firstBlank?_eq_none_iff :
    config.firstBlank? = none ↔ ∀ id ∈ config.listed, ¬ Blank id :=
  find?_eq_none_iff_forall isBlank_iff_blank

theorem firstConflict?_eq_some_iff {id : String} :
    config.firstConflict? = some id ↔ IsFirst (· ∈ config.exemptAppIds) config.denyAppIds id :=
  find?_eq_some_iff_isFirst fun _ => KeySet.contains_ofList

theorem firstConflict?_eq_none_iff :
    config.firstConflict? = none ↔ ∀ id ∈ config.denyAppIds, id ∉ config.exemptAppIds :=
  find?_eq_none_iff_forall fun _ => KeySet.contains_ofList

/-- What is said of a blank id. -/
def blankFailure (id : String) : Failure :=
  .invalidConfig ("application id " ++ Text.quotedBlank id ++ " is blank")

/-- What is said of an id that is both exempt and refused. -/
def conflictFailure (id : String) : Failure :=
  .invalidConfig (id ++ " is both exempt and denied")

theorem validate_of_blank {id : String} (blank : config.firstBlank? = some id) :
    config.validate = .error (blankFailure id) := by
  rw [validate, blank]
  rfl

theorem validate_of_conflict {id : String} (proper : config.firstBlank? = none)
    (conflict : config.firstConflict? = some id) :
    config.validate = .error (conflictFailure id) := by
  rw [validate, proper, conflict]
  rfl

theorem validate_of_proper (proper : config.firstBlank? = none)
    (peaceful : config.firstConflict? = none) : config.validate = .ok () := by
  rw [validate, proper, peaceful]

theorem validate_eq_ok_iff :
    config.validate = .ok () ↔ config.firstBlank? = none ∧ config.firstConflict? = none := by
  cases blank : config.firstBlank? with
  | some id => simp [validate_of_blank blank]
  | none =>
      cases conflict : config.firstConflict? with
      | some id => simp [validate_of_conflict blank conflict]
      | none => simp [validate_of_proper blank conflict]

theorem validate_eq_error_iff {failure : Failure} :
    config.validate = .error failure ↔
      (∃ id, config.firstBlank? = some id ∧ failure = blankFailure id) ∨
      (config.firstBlank? = none ∧
        ∃ id, config.firstConflict? = some id ∧ failure = conflictFailure id) := by
  cases blank : config.firstBlank? with
  | some id => simp [validate_of_blank blank, eq_comm]
  | none =>
      cases conflict : config.firstConflict? with
      | some id => simp [validate_of_conflict blank conflict, eq_comm]
      | none => simp [validate_of_proper blank conflict]

/-! ## Who is admitted -/

theorem isExempt_iff : config.isExempt appId = true ↔ appId ∈ config.exemptAppIds :=
  List.contains_iff_mem

theorem isDenied_iff : config.isDenied appId = true ↔ appId ∈ config.denyAppIds :=
  List.contains_iff_mem

/-- The set of the authorizer and the list of the configuration refuse the same applications. -/
theorem contains_denied :
    (AdmissionRules.ofConfig config).denied.contains appId = config.isDenied appId := by
  rw [Bool.eq_iff_iff, isDenied_iff]
  exact KeySet.contains_ofList

theorem authorizer_iff {processes : ProcessTable} {pid : UInt32} :
    Authorizer.ofConfig config processes pid appId = true ↔
      config.isDenied appId = false ∧
        (config.requireLiveProcess = true → processes.isAlive pid = true) := by
  rw [Authorizer.ofConfig, AdmissionRules.admits, contains_denied]
  cases config.isDenied appId with
  | true => simp
  | false =>
      have rule : (AdmissionRules.ofConfig config).requireLiveProcess =
          config.requireLiveProcess := rfl
      rw [rule]
      cases config.requireLiveProcess <;> cases processes.isAlive pid <;> simp

/-- A valid configuration refuses no exempt application. -/
theorem not_isDenied_of_isExempt (valid : config.validate = .ok ())
    (exempt : config.isExempt appId = true) : config.isDenied appId = false := by
  have peaceful := firstConflict?_eq_none_iff.1 (validate_eq_ok_iff.1 valid).2
  rw [← Bool.not_eq_true, isDenied_iff]
  intro denied
  exact peaceful appId denied (isExempt_iff.1 exempt)

theorem isExempt_extend {throttle : Bool} {flags : List String} :
    (config.extend throttle flags).isExempt appId = true ↔
      config.isExempt appId = true ∨ appId ∈ flags := by
  rw [isExempt_iff, isExempt_iff, extend, List.mem_append]

/-- A replay starts from a configuration and goes by what the command line makes of it, if that is
valid. -/
theorem replayConfig_eq_ok_iff {files : FileStore} {path : Option String} {throttle : Bool}
    {flags : List String} :
    Command.replayConfig files path throttle flags = .ok config ↔
      ∃ base, Command.baseConfig files path = .ok base ∧ config = base.extend throttle flags ∧
        config.validate = .ok () := by
  simp only [Command.replayConfig, Json.bind_ok_iff, Json.mapError_ok_iff]
  constructor
  · rintro ⟨base, read, _, valid, ⟨⟩⟩
    exact ⟨base, read, rfl, valid⟩
  · rintro ⟨base, read, rfl, valid⟩
    exact ⟨base, read, (), valid, rfl⟩

/-- What makes a configuration valid, what is named of one that is not, and who is admitted. It is
valid exactly if each listed id has a character that is no white space and no id is listed twice
over, as exempt and as refused. Otherwise the first blank id is named, exempt ones first, and if
none is blank, the first refused id that is exempt as well; a blank id is named so that it can be
told from any other. An application is admitted exactly if it is not refused and, where this is
asked for, its process runs. A replay goes by a valid configuration that exempts whatever the
command line exempts; and under a valid configuration, an exempt application is refused over its
process only. -/
theorem validity_and_admission (config : LifecycleConfig) :
    (config.validate = .ok () ↔
      (∀ id ∈ config.exemptAppIds ++ config.denyAppIds,
        ∃ c ∈ id.toList, Text.isBlankChar c = false) ∧
      ∀ id ∈ config.denyAppIds, id ∉ config.exemptAppIds) ∧
    (∀ failure, config.validate = .error failure ↔
      (∃ id, IsFirst Blank (config.exemptAppIds ++ config.denyAppIds) id ∧
        failure = .invalidConfig ("application id " ++ Text.quotedBlank id ++ " is blank")) ∨
      ((∀ id ∈ config.exemptAppIds ++ config.denyAppIds, ¬ Blank id) ∧
        ∃ id, IsFirst (· ∈ config.exemptAppIds) config.denyAppIds id ∧
          failure = .invalidConfig (id ++ " is both exempt and denied"))) ∧
    (∀ processes pid appId,
      Coordinator.authorize (.ofConfig config processes) pid appId = true ↔
        config.isDenied appId = false ∧
          (config.requireLiveProcess = true → processes.isAlive pid = true)) ∧
    (∀ files path throttle flags, Command.replayConfig files path throttle flags = .ok config →
      config.validate = .ok () ∧ ∀ appId ∈ flags, config.isExempt appId = true) ∧
    (config.validate = .ok () → ∀ processes pid appId, config.isExempt appId = true →
      (Coordinator.authorize (.ofConfig config processes) pid appId = true ↔
        (config.requireLiveProcess = true → processes.isAlive pid = true))) ∧
    ∀ id other, Text.quotedBlank id = Text.quotedBlank other → id = other := by
  refine ⟨?_, ?_, ?_, ?_, ?_, fun _ _ => Text.quotedBlank_injective⟩
  · rw [validate_eq_ok_iff, firstBlank?_eq_none_iff, firstConflict?_eq_none_iff]
    simp only [not_blank_iff, listed]
  · intro failure
    simp only [validate_eq_error_iff, firstBlank?_eq_some_iff, firstBlank?_eq_none_iff,
      firstConflict?_eq_some_iff]
    rfl
  · intro processes pid appId
    exact authorizer_iff
  · intro files path throttle flags settled
    obtain ⟨base, _, rfl, valid⟩ := replayConfig_eq_ok_iff.1 settled
    exact ⟨valid, fun appId member => isExempt_extend.2 (.inr member)⟩
  · intro valid processes pid appId exempt
    apply authorizer_iff.trans
    rw [not_isDenied_of_isExempt valid exempt, eq_self, true_and]

/-- An id of a no-break space is named with its code, and before any conflict. -/
example :
    ({ exemptAppIds := ["a", "\u00a0"], denyAppIds := ["a"] } : LifecycleConfig).validate =
      .error (.invalidConfig "application id \"\\u\x7ba0\x7d\" is blank") := by
  rfl

end AppLifecycle.LifecycleConfig
