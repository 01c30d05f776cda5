import AppLifecycle.Proofs.Coordinator.Fate

/-!
# Sessions that end

The shell ends a session by stopping it, and the compositor by reporting that it is gone. A
session that exists has not stopped, so both come to the same: it stops, its surfaces are
released, nothing finds it any more. Whoever comes second finds nothing left to do, as long as no
new session comes up under the handle (`ended_once`).
-/

namespace AppLifecycle

/-- The session that an input reports to come up. -/
def Input.opening? : Input → Option SessionHandle
  | .event (.sessionCreated key _ _) => some key
  | _ => none

namespace Coordinator

variable {π : Type} {setup : Setup π} {state : Coordinator π} {input : Input}
  {key : SessionHandle}

/-! ## Sessions that do not exist -/

/-- A session that does not exist comes up only if it is reported to. -/
theorem Move.absent {move : Step (Coordinator π) Consultations}
    (moved : Move setup state input move) (unreported : input.opening? ≠ some key)
    (absent : state.roster.state? key = none) : move.state.roster.state? key = none := by
  cases moved with
  | still | refuse => exact absent
  | enroll appId unknown =>
      rw [Roster.state?_enroll, if_neg]
      · exact absent
      · rintro rfl
        exact unreported rfl
  | advance asked found edge active willing =>
      rw [Roster.state?_put, if_neg]
      · exact absent
      · rintro rfl
        rw [Roster.state?_of_session? found] at absent
        contradiction
  | finish asked found =>
      rw [Roster.state?_discard]
      split
      · rfl
      · exact absent
  | arrive free found => exact (Roster.state?_deliver found).trans absent
  | depart found held => exact (Roster.state?_collect found).trans absent
  | handOver found held foundTarget different =>
      exact (Roster.state?_handOver found foundTarget different).trans absent
  | focus found => exact Roster.state?_onSurface.trans ((state?_unfocus state _).trans absent)
  | touch asked => exact Roster.state?_onSurface.trans absent
  | shutdown => exact Roster.state?_removeAll

theorem handleInput_absent (setup : Setup π) (consistent : state.roster.Consistent)
    (unreported : input.opening? ≠ some key) (absent : state.roster.state? key = none) :
    (handleInput setup input state).state.roster.state? key = none := by
  obtain ⟨move, moved, equal⟩ := handleInput_follows consistent setup input
  rw [equal]
  exact ((consult_unmoved setup (moved.consistent consistent) move.answer).1 key).trans
    (moved.absent unreported absent)

/-- Nor does it come up in a run that does not report it. -/
theorem follow_absent (setup : Setup π) (consistent : state.roster.Consistent)
    (moments : List Moment) (unreported : ∀ moment ∈ moments, moment.input.opening? ≠ some key)
    (absent : state.roster.state? key = none) :
    (follow setup moments state).state.roster.Consistent ∧
      (follow setup moments state).state.roster.state? key = none := by
  induction moments generalizing state with
  | nil => exact ⟨consistent, absent⟩
  | cons moment rest ih =>
      exact ih (handleInput_consistent consistent _ _)
        (fun later member => unreported later (List.mem_cons_of_mem _ member))
        (handleInput_absent _ consistent (unreported moment (List.mem_cons_self ..)) absent)

/-! ## Two ways to end a session -/

/-- Whoever asks for it, a session is ended by removing it. -/
theorem handleInput_of_ending (setup : Setup π) (consistent : state.roster.Consistent)
    (asked : input.ending? = some key) :
    handleInput setup input state = removeSession setup key state := by
  cases input with
  | shutdown => contradiction
  | event event =>
      cases event with
      | sessionRemoved other =>
          cases asked
          rfl
      | _ => contradiction
  | command command =>
      cases command with
      | stopSession other =>
          cases asked
          have stopped : handleInput setup (.command (.stopSession key)) state =
              (transition setup .stop key state).answering () := rfl
          rw [stopped]
          cases found : state.roster.session? key with
          | none => rw [transition_of_absent .stop found, removeSession_of_absent found]; rfl
          | some session =>
              rw [transition_stop found (consistent.sound key session found).active]
              rfl
      | _ => contradiction

theorem state?_removeSession (setup : Setup π) (state : Coordinator π) (key : SessionHandle) :
    (removeSession setup key state).state.roster.state? key = none := by
  cases found : state.roster.session? key with
  | none =>
      rw [removeSession_of_absent found]
      exact Roster.state?_eq_none_iff.2 found
  | some session =>
      rw [removeSession_eq found]
      apply Roster.state?_eq_none_iff.2
      exact Roster.session?_discard.trans (if_pos rfl)

/-- In every state that a run comes to, stopping a session does what the report of its end does:
the same states follow, and the world outside sees the same in the same order. The session is gone
then. Whichever of the two comes again, at once or later on, changes nothing and shows nothing,
unless a session has come up under the handle in between. -/
theorem ended_once (setup : Setup π) (moments : List Moment) (surroundings : Surroundings)
    (key : SessionHandle) :
    let now := setup.amid surroundings
    let ended := handleInput now (.event (.sessionRemoved key)) (after setup moments)
    handleInput now (.command (.stopSession key)) (after setup moments) = ended ∧
      ended.state.roster.session? key = none ∧
      ∀ (between : List Moment) (later : Surroundings) (again : Input),
        (∀ moment ∈ between, moment.input.opening? ≠ some key) → again.ending? = some key →
        let rest := (follow setup between ended.state).state
        handleInput (setup.amid later) again rest = .quiet rest () := by
  intro now ended
  have consistent : (after setup moments).roster.Consistent := after_consistent setup moments
  have removed : ended = removeSession now key (after setup moments) := rfl
  have gone : ended.state.roster.state? key = none := by
    rw [removed]
    exact state?_removeSession now _ key
  have endedConsistent : ended.state.roster.Consistent := handleInput_consistent consistent _ _
  refine ⟨?_, Roster.state?_eq_none_iff.1 gone, ?_⟩
  · rw [removed]
    exact handleInput_of_ending now consistent rfl
  · intro between later again unreported asked rest
    obtain ⟨restConsistent, absent⟩ := follow_absent setup endedConsistent between unreported gone
    rw [handleInput_of_ending _ restConsistent asked,
      removeSession_of_absent (Roster.state?_eq_none_iff.1 absent)]

end Coordinator

end AppLifecycle
