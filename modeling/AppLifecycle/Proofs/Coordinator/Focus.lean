import AppLifecycle.Proofs.Coordinator.Ownership
import AppLifecycle.Proofs.Roster.Mirrored

/-!
# Who has the focus

The coordinator remembers which surface was given the focus last, and each surface knows whether
it has the focus. Both tell the same story after every run (`focus_after`): the focus is lost
with the surface that has it, moves along with it to another session, and is taken from it as
another surface is given it.
-/

namespace AppLifecycle

namespace Roster

variable {α : Type} {roster : Roster} {handle other : SurfaceHandle}

/-- The surface of a handle exists and has the focus. -/
def HasFocus (roster : Roster) (handle : SurfaceHandle) : Prop :=
  ∃ surface, roster.surface? handle = some surface ∧ surface.focused = true

theorem hasFocus_congr {later : Roster}
    (same : (later.surface? handle).map (·.focused) = (roster.surface? handle).map (·.focused)) :
    later.HasFocus handle ↔ roster.HasFocus handle := by
  have iff (candidate : Roster) : candidate.HasFocus handle ↔
      (candidate.surface? handle).map (·.focused) = some true := by
    rw [Option.map_eq_some_iff]
    rfl
  rw [iff, iff, same]

/-- An action that leaves the focus alone. -/
theorem hasFocus_onSurface {act : Surface → Step Surface α} (gentle : Surface.Gentle act)
    (consistent : roster.Consistent)
    (keeps : ∀ surface, surface.live = true → (act surface).state.focused = surface.focused) :
    (roster.onSurface handle act).state.HasFocus other ↔ roster.HasFocus other := by
  apply hasFocus_congr
  rw [surface?_onSurface gentle consistent]
  split
  · rename_i equal
    subst equal
    cases found : roster.surface? other with
    | none => rfl
    | some surface =>
        simp only [Option.map_some]
        rw [keeps surface (consistent.live_of_surface? found)]
  · rfl

/-- Focusing and unfocusing. -/
theorem hasFocus_onSurface_focus (consistent : roster.Consistent) (focused : Bool) :
    (roster.onSurface handle (Touch.act (.focus focused))).state.HasFocus other ↔
      if other = handle then focused = true ∧ ∃ surface, roster.surface? handle = some surface
      else roster.HasFocus other := by
  unfold HasFocus
  rw [surface?_onSurface (Touch.act_gentle _) consistent]
  split
  · cases found : roster.surface? handle with
    | none => simp
    | some surface =>
        have flags := Touch.flags_act (consistent.live_of_surface? found) (.focus focused)
        simp [flags.1]
  · rfl

end Roster

namespace Coordinator

variable {π : Type} {setup : Setup π} {state : Coordinator π} {input : Input}
  {key : SessionHandle} {handle : SurfaceHandle}

/-- The surface that has the focus is the one remembered. -/
def FocusKnown (state : Coordinator π) : Prop :=
  ∀ handle, state.focused = some handle ↔ state.roster.HasFocus handle

/-! ## Moves and consultations -/

theorem touch?_ne_focus {touch : Touch} (asked : input.touch? = some (touch, handle))
    (focused : Bool) : touch ≠ .focus focused := by
  rintro rfl
  cases input with
  | event event => cases event <;> simp [Input.touch?] at asked
  | command command => cases command <;> simp [Input.touch?] at asked
  | shutdown => simp [Input.touch?] at asked

theorem focused_obeyDropper {surface : Surface} (live : surface.live = true)
    (requests : List DropperRequest) :
    (obeyDropper requests surface).state.focused = surface.focused := by
  induction requests generalizing surface with
  | nil => rfl
  | cons request rest ih =>
      rw [obeyDropper_cons]
      have touched : ((Touch.ofRequest request).act surface).state.focused = surface.focused := by
        rw [(Touch.flags_act live _).1]
        cases request <;> rfl
      exact (ih ((Touch.act_gentle _ surface).live.trans live)).trans touched

/-- Once the former holder has lost the focus, at most the next one has it. -/
theorem hasFocus_unfocus (consistent : state.roster.Consistent) (known : state.FocusKnown)
    {next other : SurfaceHandle} (different : other ≠ next) :
    ¬ (state.unfocus next).state.HasFocus other := by
  unfold unfocus
  cases former : state.focused.filter (· ≠ next) with
  | none =>
      intro focused
      have held := (known other).2 focused
      simp [held, different] at former
  | some holder =>
      simp only [Step.answering]
      rw [Roster.hasFocus_onSurface_focus consistent]
      split
      · simp
      · rename_i elsewhere
        intro focused
        have held := (known other).2 focused
        rw [held] at former
        obtain ⟨same, _⟩ := Option.filter_eq_some_iff.1 former
        exact elsewhere (Option.some.inj same)

theorem surface?_unfocus (consistent : state.roster.Consistent) {next : SurfaceHandle}
    {surface : Surface} (found : state.roster.surface? handle = some surface) :
    ∃ same, (state.unfocus next).state.surface? handle = some same := by
  unfold unfocus
  split
  · simp only [Step.answering]
    rw [Roster.surface?_onSurface (Touch.act_gentle _) consistent]
    split
    · rename_i equal
      subst equal
      exact ⟨_, by rw [found]; rfl⟩
    · exact ⟨surface, found⟩
  · exact ⟨surface, found⟩

/-- The focus is forgotten along with the surface that had it. -/
theorem focusKnown_forgetting {handles : List SurfaceHandle} {later : Coordinator π}
    (known : state.FocusKnown) (focused : later.focused = state.focused.filter (· ∉ handles))
    (surfaces : ∀ handle, later.roster.surface? handle =
      if handle ∈ handles then none else state.roster.surface? handle) :
    later.FocusKnown := by
  intro handle
  rw [focused, Option.filter_eq_some_iff, known handle, Roster.HasFocus, Roster.HasFocus,
    surfaces]
  by_cases member : handle ∈ handles
  · simp [member]
  · simp [member]

theorem Move.focusKnown {move : Step (Coordinator π) Consultations}
    (moved : Move setup state input move) (consistent : state.roster.Consistent)
    (known : state.FocusKnown) : move.state.FocusKnown := by
  cases moved with
  | still | refuse => exact known
  | enroll appId absent =>
      intro handle
      rw [Roster.HasFocus, Roster.surface?_enroll consistent absent]
      exact known handle
  | advance asked found edge active willing =>
      intro handle
      rw [Roster.HasFocus, Roster.surface?_move consistent found active]
      exact known handle
  | finish asked found =>
      exact focusKnown_forgetting known rfl fun _ => Roster.surface?_discard consistent found
  | @arrive handle key title chrome requested session absent found =>
      intro other
      apply (known other).trans
      unfold Roster.HasFocus
      rw [Roster.surface?_deliver consistent found absent rfl]
      split
      · rename_i equal
        have unmanaged := consistent.surface?_eq_none_iff.2 absent
        rw [show other = handle from equal, unmanaged]
        simp [Surface.create]
      · rfl
  | depart found held =>
      refine focusKnown_forgetting known rfl fun other => ?_
      rw [Roster.surface?_collect consistent found (Session.mem_surfaceHandles_of_surface? held)]
      simp only [List.mem_singleton]
  | @handOver handle key target session receiver surface found held foundTarget different =>
      intro other
      apply (known other).trans
      apply (Roster.hasFocus_congr _).symm
      rw [Roster.surface?_handOver consistent found held foundTarget different]
      split
      · rename_i equal
        have member := Session.mem_surfaceHandles_of_surface? held
        rw [equal, consistent.surface?_of_mem found member, held]
        rfl
      · rfl
  | @focus handle surface found =>
      intro other
      have unfocused := unfocus_consistent consistent handle
      apply Iff.trans _ (Roster.hasFocus_onSurface_focus unfocused true).symm
      by_cases equal : other = handle
      · simp [equal, surface?_unfocus consistent found]
      · have lost := hasFocus_unfocus consistent known equal
        simp [equal, Ne.symm equal, lost]
  | @touch input touch handle asked =>
      intro other
      apply (known other).trans
      apply (Roster.hasFocus_onSurface (Touch.act_gentle _) consistent _).symm
      intro surface live
      rw [(Touch.flags_act live touch).1]
      cases touch with
      | focus focused => exact absurd rfl (touch?_ne_focus asked focused)
      | rename | present | startDropper | stopDropper | render | frameReady => rfl
  | shutdown =>
      exact focusKnown_forgetting known rfl fun _ => Roster.surface?_removeAll consistent

theorem Consulted.focusKnown {step : Step (Coordinator π) Unit}
    (consulted : Consulted setup state key handle step) (consistent : state.roster.Consistent)
    (known : state.FocusKnown) : step.state.FocusKnown := by
  rcases consulted.silent_or_heed with rfl | ⟨occasion, decision, rfl⟩
  · exact known
  · intro other
    exact (known other).trans (Roster.hasFocus_onSurface (obeyDropper_gentle _) consistent
      fun surface live => focused_obeyDropper live _).symm

/-! ## Runs -/

theorem after_focusKnown (setup : Setup π) (moments : List Moment) :
    (after setup moments).FocusKnown := by
  refine (invariant_of_moves setup (fun _ state => state.FocusKnown) ?_ ?_ ?_ moments).2
  · intro handle
    simp [start, Roster.HasFocus, Roster.surface?, Roster.ownerOf?, Roster.empty]
  · intro past state surroundings input move consistent known moved
    exact moved.focusKnown consistent known
  · intro past state surroundings key handle step consistent known consulted
    exact consulted.focusKnown consistent known

/-- The focus after any run, and thus after each input of a run: a surface has it exactly if it is
the one that the coordinator remembers, which remembers none or a live surface that somebody
holds. So no two of all the surfaces held have the focus. -/
theorem focus_after (setup : Setup π) (moments : List Moment) :
    let state := after setup moments
    (∀ handle surface, state.roster.surface? handle = some surface →
      (surface.focused = true ↔ state.focused = some handle)) ∧
    (∀ handle, state.focused = some handle →
      ∃ surface, state.roster.surface? handle = some surface ∧ surface.live = true) ∧
    state.roster.surfaces.Pairwise fun first second =>
      ¬ (first.focused = true ∧ second.focused = true) := by
  intro state
  have consistent : state.roster.Consistent := after_consistent setup moments
  have known : state.FocusKnown := after_focusKnown setup moments
  have marked (handle : SurfaceHandle) (surface : Surface)
      (found : state.roster.surface? handle = some surface) :
      surface.focused = true ↔ state.focused = some handle := by
    rw [known handle, Roster.HasFocus, found]
    simp
  refine ⟨marked, ?_, ?_⟩
  · intro handle remembered
    obtain ⟨surface, found, _⟩ := (known handle).1 remembered
    exact ⟨surface, found, consistent.live_of_surface? found⟩
  · apply (List.pairwise_map.1 consistent.nodup_handles_surfaces).imp_of_mem
    rintro first second firstMember secondMember different ⟨firstFocused, secondFocused⟩
    have left := (marked _ _ (consistent.mem_surfaces_iff.1 firstMember)).1 firstFocused
    have right := (marked _ _ (consistent.mem_surfaces_iff.1 secondMember)).1 secondFocused
    exact different (Option.some.inj (left.symm.trans right))

end Coordinator

end AppLifecycle
