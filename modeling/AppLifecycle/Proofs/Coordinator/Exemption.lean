import Mathlib.Data.List.Induction
import AppLifecycle.Proofs.Coordinator.Fate
import AppLifecycle.Proofs.Coordinator.Wakefulness

/-!
# Applications that are exempt from suspension

The shell is refused the suspension of an exempt application, and the compositor confirms a
suspension only where one was asked for. The application of a session is settled as it comes up,
wherever its id is taken from, and never changes. So the session of an exempt application is
never about to be suspended and never suspended; and as only a suspension takes the wake lock away
from a session that exists, it keeps the lock once it has it (`exempt_never_suspended`).
-/

namespace AppLifecycle

/-- The application of a session and where the session stands in its life. -/
structure Career where
  appId : String
  state : SessionState
  deriving DecidableEq

/-- The career of a session. -/
def Session.career (session : Session) : Career :=
  ⟨session.appId, session.state⟩

namespace SessionState

/-- A suspension is under way or complete. -/
def IsPause (state : SessionState) : Prop :=
  state = suspending ∨ state = suspended

theorem not_isPause_starting : ¬ starting.IsPause := by
  simp [IsPause]

end SessionState

namespace Career

/-- The application is not exempt, or no suspension is under way or complete. -/
def Spared (config : LifecycleConfig) (career : Career) : Prop :=
  config.isExempt career.appId = true → ¬ career.state.IsPause

/-- How one input can change the career of one session. -/
inductive Turn (config : LifecycleConfig) : Option Career → Option Career → Prop where
  | same (career : Option Career) : Turn config career career
  | begin (appId : String) : Turn config none (some ⟨appId, .starting⟩)
  | advance {op : LifecycleOp} {source target : SessionState} (appId : String)
      (edge : op.target? source = some target)
      (willing : op = .suspend → config.isExempt appId = false) :
      Turn config (some ⟨appId, source⟩) (some ⟨appId, target⟩)
  | finish (career : Option Career) : Turn config career none

variable {config : LifecycleConfig} {former latter : Career}

/-- Only a request of the shell leads to a suspension, and only from there it is confirmed. -/
theorem isPause_of_edge {op : LifecycleOp} {source target : SessionState}
    (edge : op.target? source = some target) (pause : target.IsPause) :
    op = .suspend ∨ source.IsPause := by
  rcases pause with rfl | rfl
  all_goals cases op <;> cases source <;> simp [LifecycleOp.target?, SessionState.IsPause] at edge ⊢

theorem Turn.spared {before after : Option Career} (turn : Turn config before after)
    (spared : ∀ career, before = some career → career.Spared config) :
    ∀ career, after = some career → career.Spared config := by
  cases turn with
  | same => exact spared
  | begin appId =>
      rintro career ⟨⟩ _
      exact SessionState.not_isPause_starting
  | advance appId edge willing =>
      rintro career ⟨⟩ exempt pause
      rcases isPause_of_edge edge pause with asked | paused
      · exact Bool.false_ne_true ((willing asked).symm.trans exempt)
      · exact spared _ rfl exempt paused
  | finish =>
      rintro career ⟨⟩

theorem Turn.appId (turn : Turn config (some former) (some latter)) :
    latter.appId = former.appId := by
  cases turn with
  | same | advance => rfl

end Career

/-- The career of the session of a handle. -/
def Roster.career? (roster : Roster) (key : SessionHandle) : Option Career :=
  (roster.session? key).map Session.career

theorem Roster.career?_onSurface {α : Type} {roster : Roster} {handle : SurfaceHandle}
    {key : SessionHandle} {act : Surface → Step Surface α} :
    (roster.onSurface handle act).state.career? key = roster.career? key := by
  apply map_session?_onSurface
  intro session
  unfold Session.onSurface
  split <;> rfl

/-- What tells of a pause tells where the session goes. -/
theorem SessionFate.of_pause {key other : SessionHandle} {effects : List Effect}
    {before after : Option Session} {told : List ShellNotification} {target : SessionState}
    (fate : SessionFate key effects before after told)
    (member : .sessionStateChanged other target ∈ told) (pause : target.IsPause) :
    ∃ session, before = some session ∧ after = some { session with state := target } := by
  cases fate with
  | same | enroll | adopt => simp at member
  | @advance op session reached edge =>
      obtain ⟨_, rfl⟩ : other = key ∧ target = reached := by simpa using member
      exact ⟨session, rfl, rfl⟩
  | part active whole =>
      obtain ⟨_, rfl⟩ : other = key ∧ target = .stopped := by simpa using member
      simp [SessionState.IsPause] at pause

namespace Coordinator

variable {π : Type} {setup : Setup π} {state : Coordinator π} {input : Input}
  {key : SessionHandle} {handle : SurfaceHandle}

/-! ## Moves and consultations -/

/-- A move is a turn in the career of each session. -/
theorem Move.careerTurn {move : Step (Coordinator π) Consultations}
    (moved : Move setup state input move) (consistent : state.roster.Consistent)
    (other : SessionHandle) :
    Career.Turn setup.config (state.roster.career? other) (move.state.roster.career? other) := by
  cases moved with
  | still | refuse => exact .same _
  | @enroll key pid reported appId absent =>
      simp only [Roster.career?, Roster.session?_enroll]
      by_cases equal : other = key
      · simp only [equal, if_true, absent]
        exact .begin appId
      · simp only [equal, if_false]
        exact .same _
  | @advance input op key session target asked found edge active willing =>
      simp only [Roster.career?, Roster.session?_put]
      by_cases equal : other = key
      · simp only [equal, if_true, found]
        exact .advance session.appId edge willing
      · simp only [equal, if_false]
        exact .same _
  | @finish input key session asked found =>
      simp only [Roster.career?, Roster.session?_discard]
      by_cases equal : other = key
      · simp only [equal, if_true]
        exact .finish _
      · simp only [equal, if_false]
        exact .same _
  | @arrive handle key title chrome requested session absent found =>
      have fresh : (Surface.create handle key (state.surfaceIds.name requested handle).2 title
          chrome).handle ∉ session.surfaceHandles := consistent.not_mem_of_absent absent found
      simp only [Roster.career?, Roster.session?_deliver, Session.adopt_of_not_mem fresh]
      by_cases equal : other = key
      · simp only [equal, if_true, found]
        exact .same _
      · simp only [equal, if_false]
        exact .same _
  | @depart handle key session surface found held =>
      simp only [Roster.career?, Roster.session?_collect]
      by_cases equal : other = key
      · simp only [equal, if_true, found]
        exact .same _
      · simp only [equal, if_false]
        exact .same _
  | @handOver handle key target session receiver surface found held foundTarget different =>
      have fresh := consistent.not_mem_of_held found held foundTarget different
      simp only [Roster.career?, Roster.session?_deliver, Roster.session?_collect,
        Session.adopt_of_not_mem fresh]
      by_cases receives : other = target
      · simp only [receives, if_true, foundTarget]
        exact .same _
      · by_cases gives : other = key
        · subst gives
          simp only [receives, if_false, if_true, found]
          exact .same _
        · simp only [receives, gives, if_false]
          exact .same _
  | @focus handle surface found =>
      have unmoved : (state.unfocus handle).state.career? other = state.roster.career? other := by
        unfold unfocus
        split
        · exact Roster.career?_onSurface
        · rfl
      simp only [Roster.career?_onSurface, unmoved]
      exact .same _
  | touch asked =>
      simp only [Roster.career?_onSurface]
      exact .same _
  | shutdown =>
      simp only [Roster.career?, Roster.session?_removeAll]
      exact .finish _

/-- Consultations change no career and tell nothing of sessions. -/
theorem consult_careers (setup : Setup π) (consistent : state.roster.Consistent)
    (pending : Consultations) (key : SessionHandle) :
    (consult setup pending state).state.roster.career? key = state.roster.career? key ∧
      Effect.toldOfSession key (consult setup pending state).effects = [] := by
  refine (consult_induction (fun past later =>
    later.roster.career? key = state.roster.career? key ∧ Effect.toldOfSession key past = [])
    ?_ pending [] consistent ⟨rfl, rfl⟩).2
  rintro past later owner handle step consistent ⟨unmoved, silent⟩ consulted
  rw [Effect.toldOfSession_append, silent, (consulted.sessions_unmoved consistent key).2]
  refine ⟨?_, rfl⟩
  rcases consulted.silent_or_heed with rfl | ⟨occasion, decision, rfl⟩
  · exact unmoved
  · exact Roster.career?_onSurface.trans unmoved

/-! ## Inputs -/

/-- Every input is a turn in the career of each session. -/
theorem handleInput_careerTurn (consistent : state.roster.Consistent) (setup : Setup π)
    (input : Input) (key : SessionHandle) :
    Career.Turn setup.config (state.roster.career? key)
      ((handleInput setup input state).state.roster.career? key) := by
  obtain ⟨move, moved, equal⟩ := handleInput_follows consistent setup input
  rw [equal, Step.andThen, (consult_careers setup (moved.consistent consistent) _ key).1]
  exact moved.careerTurn consistent key

/-- If a session is told to pause, it exists before and after the input, and pauses then. -/
theorem pause_of_told (consistent : state.roster.Consistent) (setup : Setup π) (input : Input)
    {target : SessionState} (pause : target.IsPause)
    (told : .notify (.sessionStateChanged key target) ∈ (handleInput setup input state).effects) :
    ∃ session, state.roster.session? key = some session ∧
      (handleInput setup input state).state.roster.career? key =
        some ⟨session.appId, target⟩ := by
  obtain ⟨move, moved, equal⟩ := handleInput_follows consistent setup input
  have consulted := consult_careers setup (moved.consistent consistent) move.answer key
  rw [equal] at told ⊢
  have member : .sessionStateChanged key target ∈ Effect.toldOfSession key move.effects := by
    have anywhere : .sessionStateChanged key target ∈
        Effect.toldOfSession key (move.andThen (consult setup)).effects :=
      List.mem_filter.2 ⟨Effect.mem_notifications_iff.2 told, by simp [ShellNotification.session?]⟩
    rwa [Step.andThen, Effect.toldOfSession_append, consulted.2, List.append_nil] at anywhere
  obtain ⟨session, found, paused⟩ := (moved.sessionFate consistent key).of_pause member pause
  refine ⟨session, found, consulted.1.trans ?_⟩
  rw [Roster.career?, paused]
  rfl

/-! ## Runs -/

theorem after_careerTurn (setup : Setup π) (moments : List Moment) (last : Moment)
    (key : SessionHandle) :
    Career.Turn setup.config ((after setup moments).roster.career? key)
      ((after setup (moments ++ [last])).roster.career? key) := by
  rw [after_concat]
  exact handleInput_careerTurn (after_consistent setup moments) (setup.amid last.surroundings)
    last.input key

theorem after_spared (setup : Setup π) (moments : List Moment) (key : SessionHandle) :
    ∀ career, (after setup moments).roster.career? key = some career →
      career.Spared setup.config := by
  induction moments using List.reverseRecOn with
  | nil =>
      intro career found
      simp [start, Roster.career?, Roster.session?, Roster.empty] at found
  | append_singleton moments last ih => exact (after_careerTurn setup moments last key).spared ih

/-- Once it is up, the session of an exempt application holds the lock for as long as it exists,
and its application stays the same. -/
theorem held_of_exempt (setup : Setup π) (wanted : setup.config.wakelock = true)
    (moments later : List Moment) {session : Session}
    (found : (after setup moments).roster.session? key = some session)
    (exempt : setup.config.isExempt session.appId = true) (up : (after setup moments).Up key)
    (stays : ∀ stretch, stretch <+: later →
      ∃ session, (after setup (moments ++ stretch)).roster.session? key = some session) :
    ((after setup (moments ++ later)).standing key).held = true ∧
      ((after setup (moments ++ later)).roster.career? key).map (·.appId) =
        some session.appId := by
  induction later using List.reverseRecOn with
  | nil =>
      rw [List.append_nil, Roster.career?, found]
      exact ⟨(standing_sound setup moments key).up wanted (up_iff.1 up), rfl⟩
  | append_singleton later last ih =>
      obtain ⟨held, application⟩ := ih fun stretch within =>
        stays stretch (within.trans (List.prefix_append ..))
      obtain ⟨former, formerIs, sameFormer⟩ := Option.map_eq_some_iff.1 application
      obtain ⟨now, nowFound⟩ := stays _ (List.prefix_refl _)
      have nowIs : (after setup (moments ++ (later ++ [last]))).roster.career? key =
          some now.career := by
        rw [Roster.career?, nowFound, Option.map_some]
      have sameNow : now.appId = session.appId := by
        have turn := after_careerTurn setup (moments ++ later) last key
        rw [List.append_assoc, formerIs, nowIs] at turn
        exact turn.appId.trans sameFormer
      have spared : ¬ now.state.IsPause :=
        after_spared setup _ key _ nowIs (by rw [← sameNow] at exempt; exact exempt)
      refine ⟨?_, by rw [nowIs, Option.map_some, ← sameNow]; rfl⟩
      have turn := handleInput_turn (after_consistent setup (moments ++ later))
        (setup.amid last.surroundings) last.input key
      rw [← after_concat, List.append_assoc] at turn
      apply (turn.held_iff (standing_sound setup _ key)).2
      refine ⟨wanted, now.posture, ?_, .inr ⟨held, fun suspended => spared (.inr suspended)⟩⟩
      rw [standing_of_found nowFound]

/-- Exempt applications throughout a run, wherever their ids were taken from: a session of such an
application is never in a pause, and whenever with a further input a session is told to pause, the
session exists and its application is not exempt. If the wake lock is wanted, a session of an
exempt application holds it from the time when it is up for as long as it exists. -/
theorem exempt_never_suspended (setup : Setup π) (moments : List Moment) :
    let state := after setup moments
    (∀ key session, state.roster.session? key = some session →
      setup.config.isExempt session.appId = true →
      session.state ≠ .suspending ∧ session.state ≠ .suspended) ∧
    (∀ (moment : Moment) (key : SessionHandle) (target : SessionState),
      .notify (.sessionStateChanged key target) ∈
        (handleInput (setup.amid moment.surroundings) moment.input state).effects →
      target = .suspending ∨ target = .suspended →
      ∃ session, state.roster.session? key = some session ∧
        setup.config.isExempt session.appId = false) ∧
    (setup.config.wakelock = true → ∀ (later : List Moment) (key : SessionHandle)
      (session : Session), state.roster.session? key = some session →
      setup.config.isExempt session.appId = true → session.state = .running →
      session.surfaces ≠ [] →
      (∀ stretch, stretch <+: later →
        ∃ session, (after setup (moments ++ stretch)).roster.session? key = some session) →
      (after setup (moments ++ later)).wakeLock.isHeldBy (.session key) = true) := by
  intro state
  refine ⟨?_, ?_, ?_⟩
  · intro key session found exempt
    have career : state.roster.career? key = some session.career := by
      rw [Roster.career?, found, Option.map_some]
    exact not_or.1 (after_spared setup moments key _ career exempt)
  · intro moment key target told pause
    obtain ⟨session, found, paused⟩ := pause_of_told (after_consistent setup moments) _ _ pause told
    refine ⟨session, found, Bool.eq_false_iff.2 fun exempt => ?_⟩
    rw [← after_concat] at paused
    exact after_spared setup _ key _ paused exempt pause
  · intro wanted later key session found exempt running occupied stays
    exact (held_of_exempt setup wanted moments later found exempt
      ⟨session, found, running, occupied⟩ stays).1

end Coordinator

end AppLifecycle
