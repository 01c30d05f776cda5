import Mathlib.Data.List.Induction
import AppLifecycle.Proofs.Chronicle
import AppLifecycle.Proofs.Coordinator.Ownership
import AppLifecycle.Proofs.WakeLock

/-!
# Who keeps the device awake

Whether a session holds the wake lock is a matter of its past. A `Standing` is what counts of a
session: its state, whether it holds a surface, and whether it holds the lock. A `Turn` lists how
one input can change the standing of one session. From it follows when a session comes to hold the
lock and when it loses it, and by induction over a run, what the past of a holder is
(`wakeLock_after`).
-/

namespace AppLifecycle

/-- The state of a session and whether it holds a surface. -/
structure Posture where
  state : SessionState
  occupied : Bool
  deriving DecidableEq

/-- What counts of a session for the wake lock. -/
structure Standing where
  /-- The posture of the session, if it exists. -/
  posture : Option Posture
  held : Bool
  deriving DecidableEq

namespace Session

/-- The posture of a session. -/
def posture (session : Session) : Posture :=
  ⟨session.state, !session.surfaces.isEmpty⟩

variable {session : Session} {handle : SurfaceHandle}

theorem posture_onSurface {α : Type} {act : Surface → Step Surface α} :
    (session.onSurface handle act).state.posture = session.posture := by
  unfold onSurface
  split
  · simp [posture]
  · rfl

theorem posture_adopt {surface : Surface} (fresh : surface.handle ∉ session.surfaceHandles) :
    (session.adopt surface).posture = ⟨session.state, true⟩ := by
  rw [adopt_of_not_mem fresh]
  simp [posture]

theorem posture_of_surface {surface : Surface} (held : session.surface? handle = some surface) :
    session.posture = ⟨session.state, true⟩ := by
  have member := (mem_of_surface?_eq_some held).1
  have occupied : session.surfaces ≠ [] := List.ne_nil_of_mem member
  simp [posture, occupied]

end Session

namespace Roster

variable {α : Type} {roster : Roster} {handle : SurfaceHandle} {key : SessionHandle}

/-- The posture of the session of a handle. -/
def posture? (roster : Roster) (key : SessionHandle) : Option Posture :=
  (roster.session? key).map Session.posture

theorem posture?_onSurface {act : Surface → Step Surface α} :
    (roster.onSurface handle act).state.posture? key = roster.posture? key :=
  map_session?_onSurface fun _ => Session.posture_onSurface

end Roster

/-! ## The wake lock -/

namespace Setup

variable {π : Type} {setup : Setup π} {lock : WakeLock} {key : SessionHandle} {token : OwnerToken}

/-- Whether a session holds the lock once it has come into a state. -/
def heldAt (wants : Bool) (target : SessionState) (occupied held : Bool) : Bool :=
  match target with
  | .running => held || (wants && occupied)
  | .suspended => false
  | _ => held

theorem isHeldBy_wake :
    (setup.wake key lock).state.isHeldBy token =
      if token = .session key then lock.isHeldBy token || setup.config.wakelock
      else lock.isHeldBy token := by
  unfold wake
  split
  · rename_i wants
    rw [Step.answering, WakeLock.isHeldBy_acquire, wants, Bool.or_true]
  · rename_i unwanted
    simp [Step.quiet, unwanted]

theorem isHeldBy_rest :
    (setup.rest key lock).state.isHeldBy token =
      if token = .session key then false else lock.isHeldBy token :=
  WakeLock.isHeldBy_release

theorem isHeldBy_lockAt {session : Session} {target : SessionState} :
    (setup.lockAt session key target lock).state.isHeldBy token =
      if token = .session key then
        heldAt setup.config.wakelock target session.posture.occupied (lock.isHeldBy token)
      else lock.isHeldBy token := by
  cases target with
  | starting | suspending | stopped => simp [lockAt, heldAt, Step.quiet]
  | running =>
      simp only [lockAt, heldAt, Session.posture]
      cases session.surfaces.isEmpty with
      | true => simp [Step.quiet]
      | false => simp [isHeldBy_wake]
  | suspended => exact isHeldBy_rest

theorem isHeldBy_lockJoined {session : Session} :
    (setup.lockJoined session key lock).state.isHeldBy token =
      if token = .session key then
        lock.isHeldBy token || (setup.config.wakelock && decide (session.state = .running))
      else lock.isHeldBy token := by
  unfold lockJoined
  split
  · rename_i running
    simp [isHeldBy_wake, running]
  · rename_i idle
    simp [Step.quiet, idle]

end Setup

/-! ## Turns -/

/-- How one input can change the standing of one session. -/
inductive Turn (wants : Bool) : Standing → Standing → Prop where
  | same (standing : Standing) : Turn wants standing standing
  | appear (held : Bool) : Turn wants ⟨none, held⟩ ⟨some ⟨.starting, false⟩, held⟩
  | advance {op : LifecycleOp} {source target : SessionState} (occupied held : Bool)
      (edge : op.target? source = some target) (active : target ≠ .stopped) :
      Turn wants ⟨some ⟨source, occupied⟩, held⟩
        ⟨some ⟨target, occupied⟩, Setup.heldAt wants target occupied held⟩
  | vanish (standing : Standing) : Turn wants standing ⟨none, false⟩
  /-- The session takes a surface in. -/
  | join (state : SessionState) (occupied held : Bool) :
      Turn wants ⟨some ⟨state, occupied⟩, held⟩
        ⟨some ⟨state, true⟩, held || (wants && decide (state = .running))⟩
  /-- The session gives a surface away, perhaps its last. -/
  | leave (state : SessionState) (occupied held : Bool) :
      Turn wants ⟨some ⟨state, true⟩, held⟩ ⟨some ⟨state, occupied⟩, held⟩

/-- The lock is held only by sessions that are running or about to be suspended, if the
configuration wants it at all, and by every running session with a surface. -/
structure Standing.Sound (wants : Bool) (standing : Standing) : Prop where
  holder : standing.held = true → wants = true ∧
    ∃ posture, standing.posture = some posture ∧
      (posture.state = .running ∨ posture.state = .suspending)
  up : wants = true → standing.posture = some ⟨.running, true⟩ → standing.held = true

namespace Turn

variable {wants : Bool} {former latter : Standing}

theorem sound (turn : Turn wants former latter) (before : former.Sound wants) :
    latter.Sound wants := by
  cases turn with
  | same => exact before
  | appear held =>
      constructor
      · intro holds
        rcases before.holder holds with ⟨_, posture, nowhere, _⟩
        contradiction
      · intro _ up
        simp at up
  | advance occupied held edge active =>
      rename_i op source target
      cases target with
      | starting => cases op <;> cases source <;> simp [LifecycleOp.target?] at edge
      | stopped => exact absurd rfl active
      | suspending => exact ⟨fun holds => ⟨(before.holder holds).1, _, rfl, .inr rfl⟩, by simp⟩
      | suspended => exact ⟨by simp [Setup.heldAt], by simp⟩
      | running =>
          constructor
          · intro holds
            rcases Bool.or_eq_true_iff.1 holds with already | joined
            · exact ⟨(before.holder already).1, _, rfl, .inl rfl⟩
            · exact ⟨(Bool.and_eq_true_iff.1 joined).1, _, rfl, .inl rfl⟩
          · intro wanted up
            simp only [Option.some.injEq, Posture.mk.injEq, true_and] at up
            simp [Setup.heldAt, wanted, up]
  | vanish => exact ⟨by simp, by simp⟩
  | join state occupied held =>
      constructor
      · intro holds
        rcases Bool.or_eq_true_iff.1 holds with already | joined
        · rcases before.holder already with ⟨wanted, posture, known, active⟩
          rw [← Option.some.inj known] at active
          exact ⟨wanted, _, rfl, active⟩
        · rcases Bool.and_eq_true_iff.1 joined with ⟨wanted, running⟩
          exact ⟨wanted, _, rfl, .inl (of_decide_eq_true running)⟩
      · intro wanted up
        simp only [Option.some.injEq, Posture.mk.injEq, and_true] at up
        simp [wanted, up]
  | leave state occupied held =>
      constructor
      · intro holds
        rcases before.holder holds with ⟨wanted, posture, known, active⟩
        rw [← Option.some.inj known] at active
        exact ⟨wanted, _, rfl, active⟩
      · intro wanted up
        simp only [Option.some.injEq, Posture.mk.injEq] at up
        exact before.up wanted (by rw [up.1])

/-- After a turn a session holds the lock if it runs with a surface, or did hold the lock and has
not been suspended. -/
theorem held_iff (turn : Turn wants former latter) (before : former.Sound wants) :
    latter.held = true ↔ wants = true ∧ ∃ posture, latter.posture = some posture ∧
      (posture = ⟨.running, true⟩ ∨ (former.held = true ∧ posture.state ≠ .suspended)) := by
  constructor
  · intro holds
    rcases (turn.sound before).holder holds with ⟨wanted, posture, known, active⟩
    refine ⟨wanted, posture, known, ?_⟩
    have awake : posture.state ≠ .suspended := by
      rcases active with running | suspending
      · simp [running]
      · simp [suspending]
    cases turn with
    | same => exact .inr ⟨holds, awake⟩
    | appear => exact .inr ⟨holds, awake⟩
    | vanish => contradiction
    | leave => exact .inr ⟨holds, awake⟩
    | advance occupied held edge unstopped =>
        rename_i op source target
        simp only [Option.some.injEq] at known
        subst known
        cases target with
        | starting | suspending | stopped => exact .inr ⟨holds, awake⟩
        | suspended => exact absurd rfl awake
        | running =>
            rcases Bool.or_eq_true_iff.1 holds with already | joined
            · exact .inr ⟨already, awake⟩
            · exact .inl (by rw [(Bool.and_eq_true_iff.1 joined).2])
    | join state occupied held =>
        simp only [Option.some.injEq] at known
        subst known
        rcases Bool.or_eq_true_iff.1 holds with already | joined
        · exact .inr ⟨already, awake⟩
        · exact .inl (by rw [of_decide_eq_true (Bool.and_eq_true_iff.1 joined).2])
  · rintro ⟨wanted, posture, known, up | ⟨already, awake⟩⟩
    · exact (turn.sound before).up wanted (by rw [known, up])
    · cases turn with
      | same => exact already
      | appear => exact already
      | vanish => contradiction
      | leave => exact already
      | join state occupied held =>
          have holds : held = true := already
          simp [holds]
      | advance occupied held edge unstopped =>
          rename_i op source target
          simp only [Option.some.injEq] at known
          subst known
          cases target with
          | starting | suspending | stopped => exact already
          | suspended => exact absurd rfl awake
          | running =>
              have holds : held = true := already
              simp [Setup.heldAt, holds]

end Turn

/-! ## Moves and consultations -/

namespace Coordinator

variable {π : Type} {setup : Setup π} {state : Coordinator π} {input : Input}
  {key : SessionHandle} {handle : SurfaceHandle}

/-- How a session stands. -/
def standing (state : Coordinator π) (key : SessionHandle) : Standing :=
  ⟨state.roster.posture? key, state.wakeLock.isHeldBy (.session key)⟩

theorem standing_of_found {session : Session} (found : state.roster.session? key = some session) :
    state.standing key =
      ⟨some session.posture, state.wakeLock.isHeldBy (.session key)⟩ := by
  rw [standing, Roster.posture?, found, Option.map_some]

/-- A move is a turn for each session. -/
theorem Move.turn {move : Step (Coordinator π) Consultations}
    (moved : Move setup state input move) (consistent : state.roster.Consistent)
    (other : SessionHandle) :
    Turn setup.config.wakelock (state.standing other) (move.state.standing other) := by
  cases moved with
  | still => exact .same _
  | @enroll key pid reported appId absent =>
      simp only [standing, Roster.posture?, Roster.session?_enroll]
      by_cases equal : other = key
      · simp only [equal, if_true, absent, Option.map_none, Option.map_some]
        exact .appear _
      · simp only [equal, if_false]
        exact .same _
  | @advance input op key session target asked found edge active willing =>
      simp only [standing, Roster.posture?, Roster.session?_put, Setup.isHeldBy_lockAt,
        OwnerToken.session.injEq]
      by_cases equal : other = key
      · simp only [equal, if_true, found, Option.map_some]
        exact .advance _ _ edge active
      · simp only [equal, if_false]
        exact .same _
  | @finish input key session asked found =>
      simp only [standing, Roster.posture?, Roster.session?_discard, Setup.isHeldBy_rest,
        OwnerToken.session.injEq]
      by_cases equal : other = key
      · simp only [equal, if_true, Option.map_none]
        exact .vanish _
      · simp only [equal, if_false]
        exact .same _
  | @arrive handle key title chrome requested session absent found =>
      simp only [standing, Roster.posture?, Roster.session?_deliver, Setup.isHeldBy_lockJoined,
        OwnerToken.session.injEq]
      by_cases equal : other = key
      · have fresh : (Surface.create handle key (state.surfaceIds.name requested handle).2 title
            chrome).handle ∉ session.surfaceHandles := consistent.not_mem_of_absent absent found
        simp only [equal, if_true, found, Option.map_some, Session.posture_adopt fresh]
        exact .join _ _ _
      · simp only [equal, if_false]
        exact .same _
  | refuse refused => exact .same _
  | @depart handle key session surface found held =>
      simp only [standing, Roster.posture?, Roster.session?_collect, forgetting]
      by_cases equal : other = key
      · simp only [equal, if_true, found, Option.map_some, Session.posture_of_surface held]
        exact .leave _ _ _
      · simp only [equal, if_false]
        exact .same _
  | @handOver handle key target session receiver surface found held foundTarget different =>
      simp only [standing, Roster.posture?, Roster.session?_deliver, Roster.session?_collect,
        Setup.isHeldBy_lockJoined, OwnerToken.session.injEq]
      by_cases receives : other = target
      · have fresh := consistent.not_mem_of_held found held foundTarget different
        simp only [receives, if_true, foundTarget, Option.map_some, Session.posture_adopt fresh]
        exact .join _ _ _
      · simp only [receives, if_false]
        by_cases gives : other = key
        · simp only [gives, if_true, found, Option.map_some, Session.posture_of_surface held]
          exact .leave _ _ _
        · simp only [gives, if_false]
          exact .same _
  | focus found =>
      have unmoved (next : SurfaceHandle) :
          (state.unfocus next).state.posture? other = state.roster.posture? other := by
        unfold unfocus
        split
        · exact Roster.posture?_onSurface
        · rfl
      simp only [standing, Roster.posture?_onSurface, unmoved]
      exact .same _
  | touch asked =>
      simp only [standing, Roster.posture?_onSurface]
      exact .same _
  | shutdown =>
      simp only [standing, Roster.posture?, Roster.session?_removeAll,
        WakeLock.isHeldBy_releaseAll, Option.map_none]
      exact .vanish _

theorem Consulted.standing {step : Step (Coordinator π) Unit}
    (consulted : Consulted setup state key handle step) (other : SessionHandle) :
    step.state.standing other = state.standing other := by
  rcases consulted.silent_or_heed with rfl | ⟨occasion, decision, rfl⟩
  · rfl
  · simp only [Coordinator.standing, heed, Roster.posture?_onSurface]

/-- No move lets anybody but a session hold the lock. -/
theorem Move.client {move : Step (Coordinator π) Consultations}
    (moved : Move setup state input move) {number : Nat}
    (holds : move.state.wakeLock.isHeldBy (.client number) = true) :
    state.wakeLock.isHeldBy (.client number) = true := by
  cases moved with
  | advance | arrive | handOver | finish =>
      simpa [Setup.isHeldBy_lockAt, Setup.isHeldBy_lockJoined, Setup.isHeldBy_rest] using holds
  | shutdown => simp [WakeLock.isHeldBy_releaseAll] at holds
  | still | enroll | refuse | depart | focus | touch => exact holds

/-! ## Runs -/

/-- Every input is a turn for each session. -/
theorem handleInput_turn (consistent : state.roster.Consistent) (setup : Setup π) (input : Input)
    (key : SessionHandle) :
    Turn setup.config.wakelock (state.standing key)
      ((handleInput setup input state).state.standing key) := by
  rcases handleInput_follows consistent setup input with ⟨move, moved, equal⟩
  have unmoved : (consult setup move.answer move.state).state.standing key =
      move.state.standing key :=
    (consult_induction (fun _ later => later.standing key = move.state.standing key)
      (fun _ _ _ _ _ _ same consulted => (consulted.standing key).trans same)
      move.answer [] (moved.consistent consistent) rfl).2
  rw [equal, Step.andThen, unmoved]
  exact moved.turn consistent key

theorem standing_sound (setup : Setup π) (moments : List Moment) (key : SessionHandle) :
    ((after setup moments).standing key).Sound setup.config.wakelock := by
  have kept := run_induction setup (fun _ state =>
      state.roster.Consistent ∧ (state.standing key).Sound setup.config.wakelock)
    ⟨Roster.empty_consistent, ?_, ?_⟩ ?_ moments
  · exact kept.2
  · intro holds
    simp [standing, start, WakeLock.isHeldBy_free] at holds
  · intro _ up
    simp [standing, start, Roster.posture?, Roster.session?, Roster.empty] at up
  · rintro past state moment ⟨consistent, sound⟩
    have turn := handleInput_turn consistent (setup.amid moment.surroundings) moment.input key
    exact ⟨handleInput_consistent consistent _ moment.input, turn.sound sound⟩

/-! ## The past of a holder -/

/-- A session is up while it is running and holds a surface. -/
def Up (state : Coordinator π) (key : SessionHandle) : Prop :=
  ∃ session, state.roster.session? key = some session ∧
    session.state = .running ∧ session.surfaces ≠ []

/-- A session exists and is suspended. -/
def IsSuspended (state : Coordinator π) (key : SessionHandle) : Prop :=
  ∃ session, state.roster.session? key = some session ∧ session.state = .suspended

/-- A session is added between two states. -/
def Adds (former latter : Coordinator π) (key : SessionHandle) : Prop :=
  former.roster.session? key = none ∧ ∃ session, latter.roster.session? key = some session

/-- A session becomes suspended between two states. -/
def Suspends (former latter : Coordinator π) (key : SessionHandle) : Prop :=
  ¬ former.IsSuspended key ∧ latter.IsSuspended key

/-- A session was up in some state of a run, and was neither added nor suspended since. -/
def WasUp (setup : Setup π) (moments : List Moment) (key : SessionHandle) : Prop :=
  ∃ up ≤ moments.length, (after setup (moments.take up)).Up key ∧
    ∀ later, up ≤ later → later < moments.length →
      ¬ Adds (after setup (moments.take later)) (after setup (moments.take (later + 1))) key ∧
      ¬ Suspends (after setup (moments.take later)) (after setup (moments.take (later + 1))) key

theorem up_iff : state.Up key ↔ (state.standing key).posture = some ⟨.running, true⟩ := by
  simp [Up, standing, Roster.posture?, Session.posture, Option.map_eq_some_iff]

theorem not_wasUp_nil : ¬ WasUp setup [] key := by
  rintro ⟨up, _, ⟨session, found, _⟩, _⟩
  simp [after_nil, start, Roster.session?, Roster.empty] at found

/-- What one more input does to having been up. -/
theorem wasUp_concat (moments : List Moment) (last : Moment) :
    WasUp setup (moments ++ [last]) key ↔
      (after setup (moments ++ [last])).Up key ∨
        (WasUp setup moments key ∧
          ¬ Adds (after setup moments) (after setup (moments ++ [last])) key ∧
          ¬ Suspends (after setup moments) (after setup (moments ++ [last])) key) :=
  @lasts_concat π setup (·.Up key)
    (fun former latter => ¬ Adds former latter key ∧ ¬ Suspends former latter key) moments last

theorem client_idle (setup : Setup π) (moments : List Moment) (number : Nat) :
    (after setup moments).wakeLock.isHeldBy (.client number) = false := by
  refine (invariant_of_moves setup
    (fun _ state => state.wakeLock.isHeldBy (.client number) = false)
    (WakeLock.isHeldBy_free _) ?_ ?_ moments).2
  · intro past state surroundings input move _ idle moved
    exact Bool.eq_false_iff.2 fun holds => Bool.eq_false_iff.1 idle (moved.client holds)
  · intro past state surroundings key handle step _ idle consulted
    rcases consulted.silent_or_heed with rfl | ⟨occasion, decision, rfl⟩
    · exact idle
    · exact idle

/-- A session holds the lock exactly if it exists and has been up since it was added, and since it
was last suspended. -/
theorem held_iff_wasUp (setup : Setup π) (moments : List Moment) (key : SessionHandle) :
    ((after setup moments).standing key).held = true ↔
      setup.config.wakelock = true ∧
        (∃ posture, ((after setup moments).standing key).posture = some posture) ∧
        WasUp setup moments key := by
  induction moments using List.reverseRecOn with
  | nil =>
      have free : ((start setup).standing key).held = false :=
        WakeLock.isHeldBy_free (.session key)
      simp [free, not_wasUp_nil]
  | append_singleton moments last ih =>
      have sound := standing_sound setup moments key
      have turn := handleInput_turn (after_consistent setup moments)
        (setup.amid last.surroundings) last.input key
      rw [← after_concat] at turn
      rw [turn.held_iff sound, wasUp_concat, up_iff]
      constructor
      · rintro ⟨wanted, posture, known, up | ⟨holds, awake⟩⟩
        · exact ⟨wanted, ⟨posture, known⟩, .inl (by rw [known, up])⟩
        · refine ⟨wanted, ⟨posture, known⟩, .inr ⟨(ih.1 holds).2.2, ?_, ?_⟩⟩
          · rintro ⟨absent, _⟩
            rcases (sound.holder holds).2 with ⟨former, formerKnown, _⟩
            simp [standing, Roster.posture?, absent] at formerKnown
          · rintro ⟨_, session, found, suspended⟩
            rw [standing_of_found found, Option.some.injEq] at known
            exact awake (by rw [← known]; exact suspended)
      · rintro ⟨wanted, ⟨posture, known⟩, up | ⟨past, notAdded, notSuspended⟩⟩
        · exact ⟨wanted, _, up, .inl rfl⟩
        · have managed : ∃ former, ((after setup moments).standing key).posture = some former := by
            cases found : (after setup moments).roster.session? key with
            | none =>
                rcases Option.map_eq_some_iff.1 known with ⟨session, nowFound, _⟩
                exact absurd ⟨found, session, nowFound⟩ notAdded
            | some session => exact ⟨_, congrArg Standing.posture (standing_of_found found)⟩
          have holds := ih.2 ⟨wanted, managed, past⟩
          refine ⟨wanted, posture, known, .inr ⟨holds, fun suspended => ?_⟩⟩
          rcases Option.map_eq_some_iff.1 known with ⟨session, found, postureIs⟩
          refine notSuspended ⟨?_, session, found, by rw [← suspended, ← postureIs]; rfl⟩
          -- A holder was running or about to be suspended, so it was not suspended yet.
          rintro ⟨former, formerFound, formerSuspended⟩
          rcases (sound.holder holds).2 with ⟨_, formerKnown, active⟩
          rw [standing_of_found formerFound, Option.some.injEq] at formerKnown
          rw [← formerKnown] at active
          simp [Session.posture, formerSuspended] at active

/-- The wake lock after any run, and thus after each input of a run: a session holds it exactly
if the configuration wants it, the session exists, and the session has been up since it was last
added or suspended; a session that is up holds it; whoever holds it is a session that is running
or about to be suspended; and nobody ever holds an unwanted lock. -/
theorem wakeLock_after (setup : Setup π) (moments : List Moment) :
    let state := after setup moments
    (∀ key, state.wakeLock.isHeldBy (.session key) = true ↔
      setup.config.wakelock = true ∧ (∃ session, state.roster.session? key = some session) ∧
        WasUp setup moments key) ∧
    (setup.config.wakelock = true → ∀ key, state.Up key →
      state.wakeLock.isHeldBy (.session key) = true) ∧
    (∀ owner, state.wakeLock.isHeldBy owner = true →
      ∃ key session, owner = .session key ∧ state.roster.session? key = some session ∧
        (session.state = .running ∨ session.state = .suspending)) ∧
    (setup.config.wakelock = false → ∀ owner, state.wakeLock.isHeldBy owner = false) := by
  intro state
  have sound := standing_sound setup moments
  have holders : ∀ owner, state.wakeLock.isHeldBy owner = true →
      setup.config.wakelock = true ∧ ∃ key session, owner = .session key ∧
        state.roster.session? key = some session ∧
        (session.state = .running ∨ session.state = .suspending) := by
    intro owner holds
    cases owner with
    | client number =>
        rw [client_idle setup moments number] at holds
        contradiction
    | session key =>
        rcases (sound key).holder holds with ⟨wanted, posture, known, active⟩
        rcases Option.map_eq_some_iff.1 known with ⟨session, found, rfl⟩
        exact ⟨wanted, key, session, rfl, found, active⟩
  refine ⟨?_, ?_, fun owner holds => (holders owner holds).2, ?_⟩
  · intro key
    apply (held_iff_wasUp setup moments key).trans
    simp [standing, Roster.posture?, state]
  · intro wanted key isUp
    exact (sound key).up wanted (up_iff.1 isUp)
  · intro unwanted owner
    apply Bool.eq_false_iff.2
    intro holds
    rw [(holders owner holds).1] at unwanted
    contradiction

end Coordinator

end AppLifecycle
