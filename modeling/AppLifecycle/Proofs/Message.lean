import AppLifecycle.Message.Json
import AppLifecycle.Proofs.Json.Range
import AppLifecycle.Proofs.Json.Records

/-!
# Messages are read back

A message can be told in many ways: its members may stand in any order, members that it does not
know may stand among them, and some members of a new surface may be left out or given in another
form. However a message is told, it is read back as what it is.
-/

namespace AppLifecycle

open Json (Datum Field Orderly Shows Tells Variant fillMembers findNamed readDocument tagName)

variable {α β γ : Type}

/-! ## Values of fields -/

namespace Json

theorem readUInt64_datum (n : UInt64) :
    readUInt64 (Json.number n.toNat).datum.outline = .ok n := by
  have known := NumberParts.value_integer_natural n.toNat_lt_size
  rw [datum, Datum.integer, Datum.outline, known, readUInt64, readNatural, if_pos n.toNat_lt_size]
  exact congrArg Except.ok n.ofNat_toNat

theorem readUInt32_datum (n : UInt32) :
    readUInt32 (Json.number n.toNat).datum.outline = .ok n := by
  have known := NumberParts.value_integer_natural
    (Nat.lt_trans n.toNat_lt_size (by decide : UInt32.size < UInt64.size))
  rw [datum, Datum.integer, Datum.outline, known, readUInt32, readNatural, if_pos n.toNat_lt_size]
  exact congrArg Except.ok n.ofNat_toNat

@[simp]
theorem scalar_number_toNat (n : UInt32) : (number n.toNat).Scalar :=
  Nat.lt_trans n.toNat_lt_size (by decide : UInt32.size < UInt64.size)

end Json

theorem SessionHandle.read_toJson (handle : SessionHandle) :
    SessionHandle.read handle.toJson.datum.outline = .ok handle := by
  rw [read, toJson, Json.readUInt64_datum]
  rfl

theorem SurfaceHandle.read_toJson (handle : SurfaceHandle) :
    SurfaceHandle.read handle.toJson.datum.outline = .ok handle := by
  rw [read, toJson, Json.readUInt64_datum]
  rfl

@[simp]
theorem SessionHandle.scalar_toJson (handle : SessionHandle) : handle.toJson.Scalar :=
  handle.raw.toNat_lt_size

@[simp]
theorem SurfaceHandle.scalar_toJson (handle : SurfaceHandle) : handle.toJson.Scalar :=
  handle.raw.toNat_lt_size

theorem SessionState.readNameWithin_toJson (state : SessionState) :
    Json.readNameWithin all name state.toJson.datum.outline = .ok state := by
  cases state <;> rfl

theorem PresentationState.readNameWithin_toJson (state : PresentationState) :
    Json.readNameWithin all name state.toJson.datum.outline = .ok state := by
  cases state <;> rfl

theorem ChromeLevel.read_toJson (level : ChromeLevel) :
    ChromeLevel.read level.toJson.datum.outline = .ok level := by
  cases level <;> rfl

/-- A hint that fits 64 bits, with a sign or without, is read by its value. -/
theorem ChromeLevel.read_integer {hint : Int} (least : -2 ^ 63 ≤ hint) (greatest : hint < 2 ^ 64) :
    ChromeLevel.read (Datum.integer hint).outline =
      .ok (if hint = 1 then .low else .normal) := by
  by_cases negative : hint < 0
  · have known := Json.NumberParts.value_integer_negative negative (by simpa using least)
    rw [Datum.integer, Datum.outline, known, read, if_neg (by omega)]
  · obtain ⟨n, rfl⟩ := Int.eq_ofNat_of_zero_le (Int.not_lt.1 negative)
    have fits : n < UInt64.size := by
      rw [UInt64.size]
      omega
    have known := Json.NumberParts.value_integer_natural fits
    rw [Datum.integer, Datum.outline, known, read]
    rfl

/-! ## Messages with one or two fields -/

section

variable {variants : List (Variant MessageDraft α)} {kind : String} {given givenToo : Datum}
  {x : β} {y : γ}

open MessageDraft (form1 form2)

theorem tells_form1 (first : Field MessageDraft β) (build : β → α)
    (reads : first.read given.outline = .ok x)
    (named : findNamed variants (·.name) kind = .ok ⟨kind, form1 first build⟩ := by rfl)
    (untagged : first.name ≠ tagName := by decide)
    (lawful : first.Lawful := by exact fun _ _ => rfl)
    (fresh : first.get {} = none := by rfl) :
    Tells variants kind [first.name] [(first.name, given)] (build x) := by
  apply Tells.intro _ named
  · simp [form1, Field.slot]
  · simpa using untagged
  · constructor
    · constructor
      · simpa [form1] using lawful.slot
      · simp [form1]
    · refine ⟨first.put {} x, ?_, ?_⟩
      · exact Json.fillMembers_field first reads (by simp [form1, Field.slot]) fresh
      · simp [form1, Field.required, lawful {} x, bind, Except.bind, pure, Except.pure]

theorem tells_form2 (first : Field MessageDraft β) (second : Field MessageDraft γ)
    (build : β → γ → α) (reads : first.read given.outline = .ok x)
    (readsToo : second.read givenToo.outline = .ok y)
    (named : findNamed variants (·.name) kind = .ok ⟨kind, form2 first second build⟩ := by rfl)
    (untagged : first.name ≠ tagName ∧ second.name ≠ tagName := by decide)
    (different : first.name ≠ second.name := by decide)
    (lawful : first.Lawful := by exact fun _ _ => rfl)
    (lawfulToo : second.Lawful := by exact fun _ _ => rfl)
    (fresh : first.get {} = none := by rfl) (freshToo : second.get {} = none := by rfl)
    (apart : first.Apart second := by
      exact ⟨fun _ _ _ => rfl, fun _ _ => rfl, fun _ _ => rfl⟩) :
    Tells variants kind [first.name, second.name]
      [(first.name, given), (second.name, givenToo)] (build x y) := by
  apply Tells.intro _ named
  · simp [form2, Field.slot]
  · simpa using untagged
  · constructor
    · constructor
      · simpa [form2] using ⟨lawful.slot, lawfulToo.slot⟩
      · simpa [form2] using apart.slot
    · refine ⟨second.put (first.put {} x) y, ?_, ?_⟩
      · apply (Json.fillMembers_field first reads (by simp [form2, Field.slot]) fresh).trans
        apply Json.fillMembers_field second readsToo
        · simp [form2, Field.slot, different]
        · exact (apart.keepsSecond {} x).trans freshToo
      · simp [form2, Field.required, lawful {} x, lawfulToo _ y, apart.keepsFirst, bind,
          Except.bind, pure, Except.pure]

end

open MessageDraft

namespace ShellCommand

theorem tells_members (command : ShellCommand) :
    Tells variants command.kind (command.members.map (·.1)) (Json.memberData command.members)
      command := by
  cases command with
  | markRunning session => exact tells_form1 sessionField markRunning session.read_toJson
  | suspendSession session => exact tells_form1 sessionField suspendSession session.read_toJson
  | resumeSession session => exact tells_form1 sessionField resumeSession session.read_toJson
  | stopSession session => exact tells_form1 sessionField stopSession session.read_toJson
  | focusSurface surface => exact tells_form1 surfaceField focusSurface surface.read_toJson
  | requestPresentation surface state =>
      exact tells_form2 surfaceField presentationField requestPresentation surface.read_toJson
        state.readNameWithin_toJson
  | render surface => exact tells_form1 surfaceField render surface.read_toJson
  | startFrameDropper surface =>
      exact tells_form1 surfaceField startFrameDropper surface.read_toJson
  | stopFrameDropper surface =>
      exact tells_form1 surfaceField stopFrameDropper surface.read_toJson

end ShellCommand

namespace ShellNotification

theorem tells_members (notification : ShellNotification) :
    Tells variants notification.kind (notification.members.map (·.1))
      (Json.memberData notification.members) notification := by
  cases notification with
  | sessionAdded session appId =>
      exact tells_form2 sessionField appIdField sessionAdded session.read_toJson rfl
  | sessionRemoved session => exact tells_form1 sessionField sessionRemoved session.read_toJson
  | sessionStateChanged session state =>
      exact tells_form2 sessionField sessionStateField sessionStateChanged session.read_toJson
        state.readNameWithin_toJson
  | surfaceAdded surface session =>
      exact tells_form2 surfaceField sessionField surfaceAdded surface.read_toJson
        session.read_toJson
  | surfaceFirstFrameDrawn surface =>
      exact tells_form1 surfaceField surfaceFirstFrameDrawn surface.read_toJson
  | surfaceLiveChanged surface live =>
      exact tells_form2 surfaceField liveField surfaceLiveChanged surface.read_toJson rfl
  | surfaceFrameDropperChanged surface running =>
      exact tells_form2 surfaceField runningField surfaceFrameDropperChanged surface.read_toJson
        rfl
  | surfaceFocusChanged surface focused =>
      exact tells_form2 surfaceField focusedField surfaceFocusChanged surface.read_toJson rfl
  | surfacePresentationChanged surface state =>
      exact tells_form2 surfaceField presentationField surfacePresentationChanged
        surface.read_toJson state.readNameWithin_toJson
  | surfaceTitleChanged surface title =>
      exact tells_form2 surfaceField titleField surfaceTitleChanged surface.read_toJson rfl
  | wakeLockEnabledChanged enabled => exact tells_form1 enabledField wakeLockEnabledChanged rfl

end ShellNotification

/-! ## Events -/

namespace CompositorEvent

/-- Ways to give the title of a new surface. -/
inductive TitleGiven : String → List (String × Datum) → Prop where
  | written (title : String) : TitleGiven title [("title", .string title)]
  | leftOut : TitleGiven "" []

/-- Ways to give the chrome level of a new surface. A hint of one asks for little chrome, every
other hint for the normal amount. -/
inductive ChromeGiven : ChromeLevel → List (String × Datum) → Prop where
  | written (level : ChromeLevel) : ChromeGiven level [("chrome", .string level.name)]
  | hint {hint : Int} (least : -2 ^ 63 ≤ hint) (greatest : hint < 2 ^ 64) :
      ChromeGiven (if hint = 1 then .low else .normal) [("chrome", .integer hint)]
  | leftOut : ChromeGiven .normal []

/-- Ways to give the persistent id of a new surface. -/
inductive IdGiven : Option SurfaceId → List (String × Datum) → Prop where
  | written (id : SurfaceId) : IdGiven (some id) [("persistent_id", .string id.text)]
  | null : IdGiven none [("persistent_id", .null)]
  | leftOut : IdGiven none []

/-- Ways to give the members of an event. -/
inductive Given : CompositorEvent → List (String × Datum) → Prop where
  | written (event : CompositorEvent) : Given event (Json.memberData event.members)
  | surfaceCreated {surface : SurfaceHandle} {session : SessionHandle} {title : String}
      {chrome : ChromeLevel} {persistentId : Option SurfaceId}
      {titles chromes ids : List (String × Datum)} (givenTitle : TitleGiven title titles)
      (givenChrome : ChromeGiven chrome chromes) (givenId : IdGiven persistentId ids) :
      Given (surfaceCreated surface session title chrome persistentId)
        (("surface", surface.toJson.datum) :: ("session", session.toJson.datum) ::
          (titles ++ (chromes ++ ids)))

/-- The names of the fields of an event, those that may be absent included. -/
def fieldNames : CompositorEvent → List String
  | surfaceCreated .. => ["surface", "session", "title", "chrome", "persistent_id"]
  | event => event.members.map (·.1)

theorem TitleGiven.fill {title : String} {titles : List (String × Datum)}
    (given : TitleGiven title titles) (draft : MessageDraft) (absent : draft.title = none) :
    ∃ found : Option String, found.getD "" = title ∧
      fillMembers surfaceCreatedForm.slots (fun _ => .ok ()) (Datum.memberOutlines titles) draft =
        .ok { draft with title := found } := by
  cases given with
  | written => exact ⟨some title, rfl, Json.fillMembers_field titleField rfl rfl absent⟩
  | leftOut => exact ⟨none, rfl, by rw [← absent]; rfl⟩

theorem ChromeGiven.fill {chrome : ChromeLevel} {chromes : List (String × Datum)}
    (given : ChromeGiven chrome chromes) (draft : MessageDraft) (absent : draft.chrome = none) :
    ∃ found : Option ChromeLevel, found.getD .normal = chrome ∧
      fillMembers surfaceCreatedForm.slots (fun _ => .ok ()) (Datum.memberOutlines chromes) draft =
        .ok { draft with chrome := found } := by
  cases given with
  | written =>
      exact ⟨some chrome, rfl,
        Json.fillMembers_field chromeField chrome.read_toJson rfl absent⟩
  | hint least greatest =>
      exact ⟨some _, rfl, Json.fillMembers_field chromeField
        (ChromeLevel.read_integer least greatest) rfl absent⟩
  | leftOut => exact ⟨none, rfl, by rw [← absent]; rfl⟩

theorem IdGiven.fill {persistentId : Option SurfaceId} {ids : List (String × Datum)}
    (given : IdGiven persistentId ids) (draft : MessageDraft) (absent : draft.persistentId = none) :
    ∃ found : Option (Option SurfaceId), found.getD none = persistentId ∧
      fillMembers surfaceCreatedForm.slots (fun _ => .ok ()) (Datum.memberOutlines ids) draft =
        .ok { draft with persistentId := found } := by
  cases given with
  | written id =>
      exact ⟨some (some id), rfl,
        Json.fillMembers_field persistentIdField rfl rfl absent⟩
  | null =>
      exact ⟨some none, rfl, Json.fillMembers_field persistentIdField rfl rfl absent⟩
  | leftOut => exact ⟨none, rfl, by rw [← absent]; rfl⟩

theorem orderly_sessionCreatedForm : Orderly sessionCreatedForm.slots := by
  constructor
  · simp only [sessionCreatedForm, List.forall_mem_cons, List.not_mem_nil, false_implies,
      implies_true, and_true]
    refine ⟨?_, ?_, ?_⟩ <;> exact Field.Lawful.slot fun _ _ => rfl
  · simp only [sessionCreatedForm, List.pairwise_cons, List.forall_mem_cons, List.not_mem_nil,
      false_implies, implies_true, and_true, List.Pairwise.nil]
    refine ⟨⟨?_, ?_⟩, ?_⟩ <;>
      exact Field.Apart.slot ⟨fun _ _ _ => rfl, fun _ _ => rfl, fun _ _ => rfl⟩

theorem orderly_surfaceCreatedForm : Orderly surfaceCreatedForm.slots := by
  constructor
  · simp only [surfaceCreatedForm, List.forall_mem_cons, List.not_mem_nil, false_implies,
      implies_true, and_true]
    refine ⟨?_, ?_, ?_, ?_, ?_⟩ <;> exact Field.Lawful.slot fun _ _ => rfl
  · simp only [surfaceCreatedForm, List.pairwise_cons, List.forall_mem_cons, List.not_mem_nil,
      false_implies, implies_true, and_true, List.Pairwise.nil]
    refine ⟨⟨?_, ?_, ?_, ?_⟩, ⟨?_, ?_, ?_⟩, ⟨?_, ?_⟩, ?_⟩ <;>
      exact Field.Apart.slot ⟨fun _ _ _ => rfl, fun _ _ => rfl, fun _ _ => rfl⟩

theorem tells_sessionCreated (session : SessionHandle) (pid : UInt32) (appId : String) :
    Tells variants "session_created" ["session", "pid", "app_id"]
      (Json.memberData (sessionCreated session pid appId).members)
      (sessionCreated session pid appId) := by
  apply Tells.intro sessionCreatedForm rfl
  · decide
  · simp [members, Json.memberData, tagName]
  · constructor
    · exact orderly_sessionCreatedForm
    · refine ⟨{ session := some session, pid := some pid, appId := some appId }, ?_, rfl⟩
      apply (Json.fillMembers_field sessionField session.read_toJson rfl rfl).trans
      apply (Json.fillMembers_field pidField (Json.readUInt32_datum pid) rfl rfl).trans
      exact Json.fillMembers_field appIdField rfl rfl rfl

theorem tells_surfaceCreated (surface : SurfaceHandle) (session : SessionHandle) {title : String}
    {chrome : ChromeLevel} {persistentId : Option SurfaceId}
    {titles chromes ids : List (String × Datum)} (givenTitle : TitleGiven title titles)
    (givenChrome : ChromeGiven chrome chromes) (givenId : IdGiven persistentId ids) :
    Tells variants "surface_created" ["surface", "session", "title", "chrome", "persistent_id"]
      (("surface", surface.toJson.datum) :: ("session", session.toJson.datum) ::
        (titles ++ (chromes ++ ids)))
      (surfaceCreated surface session title chrome persistentId) := by
  apply Tells.intro surfaceCreatedForm rfl
  · decide
  · simp only [List.forall_mem_cons, List.forall_mem_append]
    refine ⟨by decide, by decide, ?_, ?_, ?_⟩
    · cases givenTitle <;> simp [tagName]
    · cases givenChrome <;> simp [tagName]
    · cases givenId <;> simp [tagName]
  · constructor
    · exact orderly_surfaceCreatedForm
    · obtain ⟨foundTitle, rfl, fillTitle⟩ :=
        givenTitle.fill { surface := some surface, session := some session } rfl
      obtain ⟨foundChrome, rfl, fillChrome⟩ :=
        givenChrome.fill
          { surface := some surface, session := some session, title := foundTitle } rfl
      obtain ⟨foundId, rfl, fillId⟩ :=
        givenId.fill
          { surface := some surface, session := some session, title := foundTitle
            chrome := foundChrome } rfl
      refine ⟨{
        surface := some surface, session := some session, title := foundTitle
        chrome := foundChrome, persistentId := foundId }, ?_, rfl⟩
      apply (Json.fillMembers_field surfaceField surface.read_toJson rfl rfl).trans
      apply (Json.fillMembers_field sessionField session.read_toJson rfl rfl).trans
      rw [Datum.memberOutlines_append, Datum.memberOutlines_append]
      rw [Json.fillMembers_append_ok_iff]
      refine ⟨_, fillTitle, ?_⟩
      rw [Json.fillMembers_append_ok_iff]
      exact ⟨_, fillChrome, fillId⟩

theorem tells_of_given {event : CompositorEvent} {own : List (String × Datum)}
    (given : event.Given own) : Tells variants event.kind event.fieldNames own event := by
  cases given with
  | surfaceCreated givenTitle givenChrome givenId =>
      exact tells_surfaceCreated _ _ givenTitle givenChrome givenId
  | written =>
      cases event with
      | sessionCreated session pid appId => exact tells_sessionCreated session pid appId
      | sessionRemoved session => exact tells_form1 sessionField sessionRemoved session.read_toJson
      | sessionSuspended session =>
          exact tells_form1 sessionField sessionSuspended session.read_toJson
      | surfaceCreated surface session title chrome persistentId =>
          cases persistentId with
          | none =>
              exact tells_surfaceCreated surface session (.written title) (.written chrome)
                .leftOut
          | some id =>
              exact tells_surfaceCreated surface session (.written title) (.written chrome)
                (.written id)
      | surfaceRemoved surface => exact tells_form1 surfaceField surfaceRemoved surface.read_toJson
      | surfaceReparented surface session =>
          exact tells_form2 surfaceField sessionField surfaceReparented surface.read_toJson
            session.read_toJson
      | surfaceRenamed surface title =>
          exact tells_form2 surfaceField titleField surfaceRenamed surface.read_toJson rfl
      | frameReady surface => exact tells_form1 surfaceField frameReady surface.read_toJson

theorem scalar_members (event : CompositorEvent) :
    ∀ entry ∈ event.members, entry.2.Scalar := by
  cases event with
  | surfaceCreated surface session title chrome persistentId =>
      cases persistentId <;> simp [members, ChromeLevel.toJson, SurfaceId.toJson]
  | _ => simp [members]

end CompositorEvent

/-! ## All messages -/

theorem ShellCommand.scalar_members (command : ShellCommand) :
    ∀ entry ∈ command.members, entry.2.Scalar := by
  cases command <;> simp [members, PresentationState.toJson]

theorem ShellNotification.scalar_members (notification : ShellNotification) :
    ∀ entry ∈ notification.members, entry.2.Scalar := by
  cases notification <;> simp [members, PresentationState.toJson, SessionState.toJson]

theorem ShellNotification.readDocument_toJson (notification : ShellNotification) :
    readDocument read notification.toJson.compactChars = .ok notification := by
  rw [Json.readDocument_compact]
  exact notification.tells_members.readVariant_datum notification.scalar_members

/-- Whoever reads what is written of a message gets the message back. The members may also stand
in any order and among members that the message does not know, and those of a new surface may be
given in other ways. No number up to four units below the end of the range of floating point is
an obstacle. -/
theorem messages_read_back :
    (∀ event : CompositorEvent,
      readDocument CompositorEvent.read event.toJson.compactChars = .ok event ∧
        ∀ own text, event.Given own →
          Shows ((tagName, .string event.kind) :: own) event.fieldNames text →
            readDocument CompositorEvent.read text = .ok event) ∧
      (∀ command : ShellCommand,
        readDocument ShellCommand.read command.toJson.compactChars = .ok command ∧
          ∀ text,
            Shows ((tagName, .string command.kind) :: Json.memberData command.members)
                (command.members.map (·.1)) text →
              readDocument ShellCommand.read text = .ok command) ∧
      (∀ notification : ShellNotification,
        readDocument ShellNotification.read notification.toJson.compactChars = .ok notification ∧
          ∀ text,
            Shows ((tagName, .string notification.kind) :: Json.memberData notification.members)
                (notification.members.map (·.1)) text →
              readDocument ShellNotification.read text = .ok notification) ∧
      ∀ parts word, Json.NumberSpelling parts word → parts.magnitude ≤ Binary64.safe →
        ∃ value, parts.value = .ok value := by
  refine ⟨fun event => ⟨?_, fun own text given shows => ?_⟩,
    fun command => ⟨?_, fun text shows => ?_⟩,
    fun notification => ⟨notification.readDocument_toJson, fun text shows => ?_⟩,
    fun parts word spelled below => ?_⟩
  · rw [Json.readDocument_compact]
    exact (CompositorEvent.tells_of_given (.written event)).readVariant_datum event.scalar_members
  · exact (CompositorEvent.tells_of_given given).readDocument shows
  · rw [Json.readDocument_compact]
    exact command.tells_members.readVariant_datum command.scalar_members
  · exact command.tells_members.readDocument shows
  · exact notification.tells_members.readDocument shows
  · cases spelled with
    | intro proper _ spelledFraction _ =>
        apply Json.NumberParts.value_of_magnitude_le proper.small _ below
        cases spelledFraction with
        | absent => exact nofun
        | present properFraction => exact properFraction.small

/-- A new surface with a hint of 33 bits, a null id and a member that it does not know. -/
theorem surfaceCreated_read_back :
    readDocument CompositorEvent.read
        (Json.object
          [("note", .array [.null, .object [(tagName, .string "#\n\"")]]),
            (tagName, .string "surface_created"), ("surface", .number 18446744073709551615),
            ("session", .number 2), ("chrome", .number 4294967297),
            ("persistent_id", .null)]).compactChars =
      .ok (.surfaceCreated ⟨18446744073709551615⟩ ⟨2⟩ "" .normal none) := by
  have hint := @CompositorEvent.ChromeGiven.hint 4294967297 (by decide) (by decide)
  have given := @CompositorEvent.Given.surfaceCreated ⟨18446744073709551615⟩ ⟨2⟩ _ _ _ _ _ _
    .leftOut hint .null
  have natural (n : Nat) (fits : n < UInt64.size) : (Json.number n).datum.InRange :=
    ⟨_, Json.NumberParts.value_integer_natural fits⟩
  apply (messages_read_back.1 _).2 _ _ given
  apply Shows.intro _ [("note", .array [.null, .object [(tagName, .string "#\n\"")]])]
    List.perm_append_comm
  · simp [tagName, CompositorEvent.fieldNames]
  · constructor
    · decide
    · have list : (Datum.array [.null, .object [(tagName, .string "#\n\"")]]).InRange :=
        ⟨trivial, ⟨trivial, trivial⟩, trivial⟩
      exact ⟨list, trivial, natural 18446744073709551615 (by decide), natural 2 (by decide),
        natural 4294967297 (by decide), trivial, trivial⟩
  · exact Json.spells_compact rfl

/-- An event with a member that it does not know, the largest finite magnitude written out, is not
read, though the number is within the range of floating point. -/
theorem largestWhole_refused :
    (Json.NumberParts.integer Binary64.largestWhole).magnitude = Binary64.largest ∧
      Json.Spells
          (.object [(tagName, .string "frame_ready"), ("surface", .integer 1),
            ("note", .integer Binary64.largestWhole)])
          (Json.object [(tagName, .string "frame_ready"), ("surface", .number 1),
            ("note", .number Binary64.largestWhole)]).compactChars ∧
        readDocument CompositorEvent.read
            (Json.object [(tagName, .string "frame_ready"), ("surface", .number 1),
              ("note", .number Binary64.largestWhole)]).compactChars =
          .error (.broken .malformed) := by
  constructor
  · rw [Json.NumberParts.magnitude_integer, Binary64.cast_largestWhole]
  constructor
  · exact Json.spells_compact rfl
  · rw [Json.readDocument_compact]
    have value := Json.NumberParts.value_largestWhole
    simp only [Json.datum, Json.memberData, Datum.integer, Datum.outline, Datum.memberOutlines,
      value]
    rfl

end AppLifecycle
