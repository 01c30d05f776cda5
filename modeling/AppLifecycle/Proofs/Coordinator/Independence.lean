import AppLifecycle.Proofs.Coordinator.Confinement
import AppLifecycle.Proofs.Coordinator.Stale

/-!
# Inputs about different sessions

An input that concerns one session does nothing to others, and does the same wherever this session
has the same. So two inputs that concern different sessions may come in either order
(`inputs_commute`).
-/

namespace AppLifecycle.Coordinator

variable {α : Type} {setup : Setup (KeySet SurfaceHandle)}
  {state first second : Coordinator (KeySet SurfaceHandle)} {input : Input} {subject : Subject}
  {session : Session} {key : SessionHandle} {handle : SurfaceHandle}

/-! ## Inputs -/

/-- What comes of an input for the session that it concerns leaves the session sound. -/
theorem deed_fits {config : LifecycleConfig} (consistent : state.roster.Consistent)
    (concern : input.concern? = some subject)
    (concerned : subject.session? state.roster = some session) {deed : Deed}
    (does : input.deed? config session = some deed) : deed.Fits session := by
  have moves (op : LifecycleOp) (notStop : op ≠ .stop)
      (does : (op.target? session.state).map Deed.advance = some deed) : deed.Fits session := by
    obtain ⟨target, edge, rfl⟩ := Option.map_eq_some_iff.1 does
    exact target?_ne_stopped notStop edge
  have held (handle : SurfaceHandle) (isSurface : subject = .surface handle) :
      handle ∈ session.surfaceHandles := by
    subst isSurface
    exact consistent.mem_of_owners (Subject.found_of_session? consistent concerned)
      (Subject.owners_of_session? consistent concerned)
  cases input with
  | shutdown => contradiction
  | event event =>
      cases event with
      | sessionCreated | surfaceCreated | surfaceReparented => contradiction
      | sessionRemoved key =>
          cases does
          trivial
      | sessionSuspended key => exact moves .confirmSuspended LifecycleOp.noConfusion does
      | surfaceRemoved handle | surfaceRenamed handle | frameReady handle =>
          cases concern
          cases does
          exact held handle rfl
  | command command =>
      cases command with
      | focusSurface => contradiction
      | markRunning key => exact moves .markRunning LifecycleOp.noConfusion does
      | resumeSession key => exact moves .resume LifecycleOp.noConfusion does
      | stopSession key =>
          cases does
          trivial
      | suspendSession key =>
          simp only [Input.deed?] at does
          split at does
          · contradiction
          · exact moves .suspend LifecycleOp.noConfusion does
      | render handle =>
          simp only [Input.deed?] at does
          split at does
          · cases concern
            cases does
            exact held handle rfl
          · contradiction
      | requestPresentation handle | startFrameDropper handle | stopFrameDropper handle =>
          cases concern
          cases does
          exact held handle rfl

/-- An input that concerns one session reports no new surface. -/
theorem arrival?_of_concern? (concern : input.concern? = some subject) :
    input.arrival? = none := by
  cases input with
  | event event => cases event <;> first | rfl | contradiction
  | command | shutdown => rfl

theorem own_of_perform (deed : Deed) :
    ∀ pair ∈ (perform setup session state deed).answer, pair.1 = session.handle := by
  intro pair member
  cases deed with
  | advance target => exact (mem_consultationsAt_iff.1 member).2.1
  | finish | depart | touch => exact absurd member List.not_mem_nil

theorem confined_carryOut (separate : setup.policy.Separate) (consistent : state.roster.Consistent)
    (found : state.roster.session? session.handle = some session) {deed : Option Deed}
    (fits : ∀ done, deed = some done → done.Fits session) :
    Confined session.handle state (carryOut setup session state deed) := by
  cases deed with
  | none => exact .quiet consistent session.handle ()
  | some deed =>
      have performed := confined_perform consistent found separate (fits deed rfl)
      exact performed.andThen
        (confined_consult separate performed.consistent (own_of_perform deed))

theorem alike_carryOut (separate : setup.policy.Separate)
    (found : first.roster.session? session.handle = some session)
    (agree : Agree session.handle first second) (deed : Option Deed) :
    Alike session.handle (carryOut setup session first deed)
      (carryOut setup session second deed) := by
  cases deed with
  | none => exact .quiet agree ()
  | some deed =>
      have performed := alike_perform found agree separate deed
      exact performed.andThen (alike_consult separate performed.agree (own_of_perform deed))

/-- States that agree on a session agree on what concerns it. -/
theorem Agree.concerned (agree : Agree session.handle first second)
    (before : first.roster.Consistent) (after : second.roster.Consistent)
    (concerned : subject.session? first.roster = some session) :
    subject.session? second.roster = some session := by
  have found := agree.session.trans (Subject.found_of_session? before concerned)
  cases subject with
  | session key =>
      have filed : first.roster.session? key = some session := concerned
      rwa [(before.sound key session filed).handle] at found
  | surface handle =>
      have holds := (before.indexed handle session.handle).1
        (Subject.owners_of_session? before concerned)
      have indexed := (after.indexed handle session.handle).2 (agree.holds_iff.2 holds)
      rw [Subject.session?, Roster.ownerOf?, indexed]
      exact found

theorem handleInput_confined (separate : setup.policy.Separate)
    (consistent : state.roster.Consistent) (concern : input.concern? = some subject)
    (concerned : subject.session? state.roster = some session) :
    Confined session.handle state (handleInput setup input state) := by
  rw [handleInput_of_concern setup consistent concern concerned]
  exact confined_carryOut separate consistent (Subject.found_of_session? consistent concerned)
    fun _ => deed_fits consistent concern concerned

theorem handleInput_alike (separate : setup.policy.Separate) (before : first.roster.Consistent)
    (after : second.roster.Consistent) (agree : Agree session.handle first second)
    (concern : input.concern? = some subject)
    (concerned : subject.session? first.roster = some session) :
    Alike session.handle (handleInput setup input first) (handleInput setup input second) := by
  rw [handleInput_of_concern setup before concern concerned,
    handleInput_of_concern setup after concern (agree.concerned before after concerned)]
  exact alike_carryOut separate (Subject.found_of_session? before concerned) agree _

/-- A step that concerns one session lets nobody come up. -/
theorem Confined.unknown {step : Step (Coordinator (KeySet SurfaceHandle)) α}
    (confined : Confined key state step) (consistent : state.roster.Consistent)
    (found : state.roster.session? key = some session)
    (absent : subject.session? state.roster = none) :
    subject.session? step.state.roster = none := by
  cases subject with
  | session other =>
      have missing : state.roster.session? other = none := absent
      have different : other ≠ key := by
        rintro rfl
        rw [found] at missing
        contradiction
      exact (confined.agree other different).session.trans missing
  | surface handle =>
      have unowned := Subject.owners_of_unknown consistent absent
      have free (other : SessionHandle) : ¬ state.roster.Holds other handle := by
        intro holds
        rw [(consistent.indexed handle other).2 holds] at unowned
        contradiction
      cases indexed : step.state.roster.owners.find? handle with
      | none => rw [Subject.session?, Roster.ownerOf?, indexed, Option.bind_none]
      | some other =>
          have holds := (confined.consistent.indexed handle other).1 indexed
          by_cases same : other = key
          · subst same
            exact absurd (confined.gainless handle holds) (free other)
          · exact absurd ((confined.agree other same).holds_iff.1 holds) (free other)

/-! ## Either order -/

/-- Two steps come to the same state and tell each session and each surface the same. -/
structure SameOutcome {π : Type} (first second : Step (Coordinator π) Unit) : Prop where
  state : first.state = second.state
  sessions : ∀ key, Effect.toldOfSession key first.effects = Effect.toldOfSession key second.effects
  surfaces : ∀ handle,
    Effect.toldOfSurface handle first.effects = Effect.toldOfSurface handle second.effects

theorem SameOutcome.symm {π : Type} {first second : Step (Coordinator π) Unit}
    (same : SameOutcome first second) : SameOutcome second first where
  state := same.state.symm
  sessions key := (same.sessions key).symm
  surfaces handle := (same.surfaces handle).symm

theorem follow_pair {π : Type} (setup : Setup π) (state : Coordinator π) (first second : Moment) :
    follow setup [first, second] state =
      (handleInput (setup.amid first.surroundings) first.input state).andThen fun _ next =>
        handleInput (setup.amid second.surroundings) second.input next := by
  simp [follow, Step.forEach, Step.andThen, Step.quiet]

/-- An input that comes to nothing, before another one and after it. -/
theorem sameOutcome_of_idle {π : Type} {setup : Setup π} {state : Coordinator π}
    {idle other : Moment}
    (first : handleInput (setup.amid idle.surroundings) idle.input state = .quiet state ())
    (last : let next := (handleInput (setup.amid other.surroundings) other.input state).state
      handleInput (setup.amid idle.surroundings) idle.input next = .quiet next ()) :
    SameOutcome (follow setup [idle, other] state) (follow setup [other, idle] state) := by
  rw [follow_pair, follow_pair, first, Step.quiet_andThen, Step.andThen, last]
  constructor
  · rfl
  · intro key
    simp [Step.quiet]
  · intro handle
    simp [Step.quiet]

section Sides

/-! A step that concerns one session and a step that concerns another, each taken first and taken
after the other. -/

variable {left right : Coordinator (KeySet SurfaceHandle) →
    Step (Coordinator (KeySet SurfaceHandle)) Unit} {former latter : SessionHandle}
  (different : former ≠ latter) (ofLeft : Confined former state (left state))
  (ofRight : Confined latter state (right state))
  (sameLeft : Alike former (left state) (left (right state).state))
  (sameRight : Alike latter (right state) (right (left state).state))
include different ofLeft ofRight sameLeft sameRight

theorem agree_of_swap (thenRight : Confined latter (left state).state (right (left state).state))
    (thenLeft : Confined former (right state).state (left (right state).state))
    (key : SessionHandle) :
    Agree key (right (left state).state).state (left (right state).state).state := by
  by_cases isFormer : key = former
  · subst isFormer
    exact (thenRight.agree key different).symm.trans sameLeft.agree
  · by_cases isLatter : key = latter
    · subst isLatter
      exact sameRight.agree.symm.trans (thenLeft.agree key isFormer)
    · have there := (ofLeft.agree key isFormer).trans (thenRight.agree key isLatter)
      have back := (ofRight.agree key isLatter).trans (thenLeft.agree key isFormer)
      exact there.symm.trans back

theorem toldOfSession_of_swap (key : SessionHandle) :
    Effect.toldOfSession key ((left state).effects ++ (right (left state).state).effects) =
      Effect.toldOfSession key ((right state).effects ++ (left (right state).state).effects) := by
  rw [Effect.toldOfSession_append, Effect.toldOfSession_append, sameLeft.sessions,
    sameRight.sessions]
  by_cases isFormer : key = former
  · subst isFormer
    rw [ofRight.sessions key different, List.append_nil, List.nil_append]
  · rw [ofLeft.sessions key isFormer, List.append_nil, List.nil_append]

theorem toldOfSurface_of_swap (consistent : state.roster.Consistent) (handle : SurfaceHandle) :
    Effect.toldOfSurface handle ((left state).effects ++ (right (left state).state).effects) =
      Effect.toldOfSurface handle
        ((right state).effects ++ (left (right state).state).effects) := by
  rw [Effect.toldOfSurface_append, Effect.toldOfSurface_append, sameLeft.surfaces,
    sameRight.surfaces]
  by_cases holds : state.roster.Holds former handle
  · have free : ¬ state.roster.Holds latter handle :=
      fun again => different (consistent.holder_eq holds again)
    rw [ofRight.surfaces handle free, List.append_nil, List.nil_append]
  · rw [ofLeft.surfaces handle holds, List.append_nil, List.nil_append]

end Sides

section Swap

variable (builtIn : setup.policy.BuiltIn) (moments : List Moment) {first second : Moment}
  {left right : Subject}
include builtIn

theorem sameOutcome_of_unknown (one : first.input.concern? = some left)
    (two : second.input.concern? = some right)
    (unknown : left.session? (after setup moments).roster = none) :
    SameOutcome (follow setup [first, second] (after setup moments))
      (follow setup [second, first] (after setup moments)) := by
  have consistent : (after setup moments).roster.Consistent := after_consistent setup moments
  have about := Input.subject?_of_concern? one
  apply sameOutcome_of_idle (handleInput_of_unknown _ consistent about unknown)
  cases known : right.session? (after setup moments).roster with
  | none =>
      rw [handleInput_of_unknown _ consistent (Input.subject?_of_concern? two) known]
      exact handleInput_of_unknown _ consistent about unknown
  | some latter =>
      have separate : (setup.amid second.surroundings).policy.Separate := builtIn.separate
      have confined := handleInput_confined separate consistent two known
      exact handleInput_of_unknown _ confined.consistent about
        (confined.unknown consistent (Subject.found_of_session? consistent known) unknown)

theorem sameOutcome_of_known {former latter : Session}
    (one : first.input.concern? = some left) (two : second.input.concern? = some right)
    (knownLeft : left.session? (after setup moments).roster = some former)
    (knownRight : right.session? (after setup moments).roster = some latter)
    (different : former.handle ≠ latter.handle) :
    SameOutcome (follow setup [first, second] (after setup moments))
      (follow setup [second, first] (after setup moments)) := by
  have separateLeft : (setup.amid first.surroundings).policy.Separate := builtIn.separate
  have separateRight : (setup.amid second.surroundings).policy.Separate := builtIn.separate
  have consistent : (after setup moments).roster.Consistent := after_consistent setup moments
  have ofLeft := handleInput_confined separateLeft consistent one knownLeft
  have ofRight := handleInput_confined separateRight consistent two knownRight
  -- Each finds its own session as before when it comes second.
  have agreeRight := ofLeft.agree latter.handle (Ne.symm different)
  have agreeLeft := ofRight.agree former.handle different
  have thenRight := handleInput_confined separateRight ofLeft.consistent two
    (agreeRight.concerned consistent ofLeft.consistent knownRight)
  have thenLeft := handleInput_confined separateLeft ofRight.consistent one
    (agreeLeft.concerned consistent ofRight.consistent knownLeft)
  have sameLeft := handleInput_alike separateLeft consistent ofRight.consistent agreeLeft one
    knownLeft
  have sameRight := handleInput_alike separateRight consistent ofLeft.consistent agreeRight two
    knownRight
  have agree := agree_of_swap different ofLeft ofRight sameLeft sameRight thenRight thenLeft
  have silentLeft := arrival?_of_concern? one
  have silentRight := arrival?_of_concern? two
  constructor
  · apply follow_eq_of_agree builtIn moments
    · simp [silentLeft, silentRight]
    · simp [silentLeft, silentRight]
    · exact agree
  · intro key
    rw [follow_pair, follow_pair]
    exact toldOfSession_of_swap different ofLeft ofRight sameLeft sameRight key
  · intro handle
    rw [follow_pair, follow_pair]
    exact toldOfSurface_of_swap different ofLeft ofRight sameLeft sameRight consistent handle

end Swap

/-- Inputs that concern different sessions, or nobody who exists, may come in either order: the
same state follows, with all holders of the wake lock, the focus, the ids and what the policy
remembers, and each session and each surface is told the same in the same order. -/
theorem inputs_commute (builtIn : setup.policy.BuiltIn) (moments : List Moment)
    {first second : Moment} {left right : Subject} (one : first.input.concern? = some left)
    (two : second.input.concern? = some right)
    (apart : ∀ former latter, left.session? (after setup moments).roster = some former →
      right.session? (after setup moments).roster = some latter →
      former.handle ≠ latter.handle) :
    SameOutcome (follow setup [first, second] (after setup moments))
      (follow setup [second, first] (after setup moments)) := by
  cases knownLeft : left.session? (after setup moments).roster with
  | none => exact sameOutcome_of_unknown builtIn moments one two knownLeft
  | some former =>
      cases knownRight : right.session? (after setup moments).roster with
      | none => exact (sameOutcome_of_unknown builtIn moments two one knownRight).symm
      | some latter =>
          exact sameOutcome_of_known builtIn moments one two knownLeft knownRight
            (apart former latter knownLeft knownRight)

/-! ## Two sessions -/

/-- Two sessions come up with a window each, and the first is activated. -/
def twoSessions : List Moment :=
  oneWindow ++
    [⟨.event (.sessionCreated ⟨2⟩ 8 "other"), plainSetup.surroundings⟩,
      ⟨.event (.surfaceCreated ⟨20⟩ ⟨2⟩ "" .normal none), plainSetup.surroundings⟩,
      ⟨.command (.markRunning ⟨1⟩), plainSetup.surroundings⟩]

/-- The first session, which holds the wake lock, ends as the second is activated. -/
theorem ending_and_activation_commute :
    plainSetup.policy.BuiltIn ∧
      SameOutcome
        (follow plainSetup
          [⟨.event (.sessionRemoved ⟨1⟩), plainSetup.surroundings⟩,
            ⟨.command (.markRunning ⟨2⟩), plainSetup.surroundings⟩] (after plainSetup twoSessions))
        (follow plainSetup
          [⟨.command (.markRunning ⟨2⟩), plainSetup.surroundings⟩,
            ⟨.event (.sessionRemoved ⟨1⟩), plainSetup.surroundings⟩]
          (after plainSetup twoSessions)) := by
  have builtIn : plainSetup.policy.BuiltIn := Setup.ofConfig_builtIn {} .empty
  refine ⟨builtIn, inputs_commute builtIn twoSessions rfl rfl ?_⟩
  have ending : ((Subject.session ⟨1⟩).session? (after plainSetup twoSessions).roster).map
      (·.handle) = some ⟨1⟩ := by decide
  have activated : ((Subject.session ⟨2⟩).session? (after plainSetup twoSessions).roster).map
      (·.handle) = some ⟨2⟩ := by decide
  intro former latter foundFormer foundLatter same
  rw [foundFormer, Option.map_some, same] at ending
  rw [foundLatter, Option.map_some] at activated
  exact absurd (ending.symm.trans activated) (by decide)

end AppLifecycle.Coordinator
