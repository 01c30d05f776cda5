import Mathlib.Data.List.Induction
import AppLifecycle.Proofs.Coordinator.Refusal

/-!
# Windows and the ids that lead to them

A surface carries the id that it came up under for as long as it exists, while the table of ids
says where an id leads. What an input does to both is said by `Naming`: a surface is named and
comes up, or is named and forgotten again as it is refused, or some surfaces go and are
forgotten. So an id never leads to a surface that is gone or carries another id (`lookup_after`).
The converse holds exactly as long as nobody asks for an id that a surface carries and no surface
is reported twice (`ids_identify_iff_respected`).
-/

namespace AppLifecycle

/-- The surface that an input reports to come up, its session, and the id that it asks for. -/
def Input.arrival? : Input → Option (SurfaceHandle × SessionHandle × Option SurfaceId)
  | .event (.surfaceCreated handle key _ _ requested) => some (handle, key, requested)
  | _ => none

namespace Roster

variable {α : Type} {roster : Roster} {handle other : SurfaceHandle} {id : SurfaceId}

/-- The id that the surface of a handle carries. -/
def carried? (roster : Roster) (handle : SurfaceHandle) : Option SurfaceId :=
  (roster.surface? handle).map (·.persistentId)

theorem carried?_eq_some_iff :
    roster.carried? handle = some id ↔
      ∃ surface, roster.surface? handle = some surface ∧ surface.persistentId = id :=
  Option.map_eq_some_iff

theorem carried?_eq_none_iff : roster.carried? handle = none ↔ roster.surface? handle = none :=
  Option.map_eq_none_iff

/-- No touch changes an id. -/
theorem carried?_onSurface {act : Surface → Step Surface α} (gentle : Surface.Gentle act)
    (consistent : roster.Consistent) :
    (roster.onSurface handle act).state.carried? other = roster.carried? other := by
  rw [carried?, carried?, surface?_onSurface gentle consistent]
  split
  · rename_i equal
    subst equal
    cases roster.surface? other with
    | none => rfl
    | some surface => exact congrArg some (gentle surface).persistentId
  · rfl

theorem carried?_deliver (consistent : roster.Consistent) {key : SessionHandle}
    {receiver : Session} (found : roster.session? key = some receiver) {surface : Surface}
    (absent : roster.owners.find? surface.handle = none) (live : surface.live = true) :
    (roster.deliver key receiver surface).carried? other =
      if other = surface.handle then some surface.persistentId else roster.carried? other := by
  rw [carried?, surface?_deliver consistent found absent live]
  split <;> rfl

end Roster

namespace Coordinator

variable {π : Type} {setup : Setup π} {state next : Coordinator π} {input : Input}
  {key : SessionHandle} {handle other : SurfaceHandle} {id : SurfaceId}

/-- What an input does to the table of ids and to the ids that surfaces carry. -/
inductive Naming (input : Input) (state next : Coordinator π) : Prop where
  /-- The surface comes up under the id that it is named by. -/
  | arrive {handle : SurfaceHandle} {key : SessionHandle} {requested : Option SurfaceId}
      (asked : input.arrival? = some (handle, key, requested))
      (absent : state.roster.carried? handle = none)
      (ids : next.surfaceIds = (state.surfaceIds.name requested handle).1)
      (carried : ∀ other, next.roster.carried? other =
        if other = handle then some (state.surfaceIds.name requested handle).2
        else state.roster.carried? other)
  /-- The surface is refused after it was named. -/
  | refuse {handle : SurfaceHandle} {key : SessionHandle} {requested : Option SurfaceId}
      (asked : input.arrival? = some (handle, key, requested))
      (refused : state.roster.Refuses handle key)
      (ids : next.surfaceIds = (state.surfaceIds.name requested handle).1.forget handle)
      (carried : ∀ other, next.roster.carried? other = state.roster.carried? other)
  /-- Some surfaces go, perhaps none. -/
  | part (handles : List SurfaceHandle) (silent : input.arrival? = none)
      (ids : next.surfaceIds =
        handles.foldl (fun ids handle => ids.forget handle) state.surfaceIds)
      (carried : ∀ other, next.roster.carried? other =
        if other ∈ handles then none else state.roster.carried? other)

/-! ## What an input does to ids -/

theorem carried?_unfocus (consistent : state.roster.Consistent) (next : SurfaceHandle) :
    (state.unfocus next).state.carried? other = state.roster.carried? other := by
  unfold unfocus
  split
  · exact Roster.carried?_onSurface (Touch.act_gentle _) consistent
  · rfl

theorem Naming.of_unchanged (silent : input.arrival? = none)
    (ids : next.surfaceIds = state.surfaceIds)
    (carried : ∀ other, next.roster.carried? other = state.roster.carried? other) :
    Naming input state next :=
  .part [] silent ids fun other => by simpa using carried other

theorem Naming.of_gone {handles : List SurfaceHandle} (silent : input.arrival? = none)
    (ids : next.surfaceIds =
      handles.foldl (fun ids handle => ids.forget handle) state.surfaceIds)
    (surfaces : ∀ other, next.roster.surface? other =
      if other ∈ handles then none else state.roster.surface? other) :
    Naming input state next := by
  refine .part handles silent ids fun other => ?_
  rw [Roster.carried?, surfaces]
  split <;> rfl

/-- Whatever reports no new surface lets surfaces go at most. -/
theorem Move.naming {move : Step (Coordinator π) Consultations}
    (moved : Move setup state input move) (consistent : state.roster.Consistent)
    (silent : input.arrival? = none) : Naming input state move.state := by
  cases moved with
  | still => exact .of_unchanged silent rfl fun _ => rfl
  | arrive | refuse => contradiction
  | enroll appId absent =>
      refine .of_unchanged silent rfl fun other => ?_
      simp only [Roster.carried?, Roster.surface?_enroll consistent absent]
  | advance asked found edge active willing =>
      refine .of_unchanged silent rfl fun other => ?_
      simp only [Roster.carried?, Roster.surface?_move consistent found active]
  | finish asked found =>
      exact .of_gone silent rfl fun _ => Roster.surface?_discard consistent found
  | @depart handle key session surface found held =>
      have surfaces (other : SurfaceHandle) :
          (state.roster.collect key session handle).surface? other =
            if other ∈ [handle] then none else state.roster.surface? other := by
        rw [Roster.surface?_collect consistent found (Session.mem_surfaceHandles_of_surface? held)]
        simp only [List.mem_singleton]
      exact .of_gone silent rfl surfaces
  | @handOver handle key target session receiver surface found held foundTarget different =>
      refine .of_unchanged silent rfl fun other => ?_
      rw [Roster.carried?, Roster.carried?,
        Roster.surface?_handOver consistent found held foundTarget different]
      split
      · rename_i equal
        have member := Session.mem_surfaceHandles_of_surface? held
        rw [equal, consistent.surface?_of_mem found member, held]
        rfl
      · rfl
  | @focus handle surface found =>
      refine .of_unchanged silent rfl fun other => ?_
      exact (Roster.carried?_onSurface (Touch.act_gentle _)
        (unfocus_consistent consistent handle)).trans (carried?_unfocus consistent handle)
  | touch asked =>
      exact .of_unchanged silent rfl fun _ =>
        Roster.carried?_onSurface (Touch.act_gentle _) consistent
  | shutdown => exact .of_gone silent rfl fun _ => Roster.surface?_removeAll consistent

/-- The policy has no say in ids. -/
theorem consult_naming (setup : Setup π) (pending : Consultations)
    (consistent : state.roster.Consistent) :
    (consult setup pending state).state.surfaceIds = state.surfaceIds ∧
      ∀ other, (consult setup pending state).state.roster.carried? other =
        state.roster.carried? other := by
  refine (consult_induction (fun _ later => later.surfaceIds = state.surfaceIds ∧
    ∀ other, later.roster.carried? other = state.roster.carried? other)
    ?_ pending [] consistent ⟨rfl, fun _ => rfl⟩).2
  rintro past later key handle step consistent ⟨ids, carried⟩ consulted
  rcases consulted.silent_or_heed with rfl | ⟨occasion, decision, rfl⟩
  · exact ⟨ids, carried⟩
  · refine ⟨ids, fun other => ?_⟩
    exact (Roster.carried?_onSurface (obeyDropper_gentle _) consistent).trans (carried other)

/-- Ids do not change any more once the move is made. -/
theorem Naming.consult {later : Coordinator π} (naming : Naming input state next)
    (unchanged : later.surfaceIds = next.surfaceIds ∧
      ∀ other, later.roster.carried? other = next.roster.carried? other) :
    Naming input state later := by
  obtain ⟨sameIds, sameCarried⟩ := unchanged
  cases naming with
  | arrive asked absent ids carried =>
      exact .arrive asked absent (sameIds.trans ids) fun other =>
        (sameCarried other).trans (carried other)
  | refuse asked refused ids carried =>
      exact .refuse asked refused (sameIds.trans ids) fun other =>
        (sameCarried other).trans (carried other)
  | part handles silent ids carried =>
      exact .part handles silent (sameIds.trans ids) fun other =>
        (sameCarried other).trans (carried other)

theorem addSurface_naming (setup : Setup π) (consistent : state.roster.Consistent)
    {title : String} {chrome : ChromeLevel} {requested : Option SurfaceId} :
    Naming (.event (.surfaceCreated handle key title chrome requested)) state
      (addSurface setup handle key title chrome requested state).state := by
  by_cases refused : state.roster.Refuses handle key
  · rw [addSurface_of_refused refused]
    exact .refuse rfl refused rfl fun _ => rfl
  · obtain ⟨absent, session, found⟩ := Roster.accepts_of_not_refuses refused
    rw [addSurface_of_accepted consistent absent found]
    refine Naming.consult (.arrive rfl ?_ rfl ?_) (consult_naming setup _ ?_)
    · exact Roster.carried?_eq_none_iff.2 (consistent.surface?_eq_none_iff.2 absent)
    · intro other
      exact Roster.carried?_deliver consistent found absent rfl
    · exact consistent.deliver found absent rfl

/-- Whatever is handled is a naming. -/
theorem handleInput_naming (setup : Setup π) (consistent : state.roster.Consistent)
    (input : Input) : Naming input state (handleInput setup input state).state := by
  cases arrival : input.arrival? with
  | none =>
      obtain ⟨move, moved, equal⟩ := handleInput_follows consistent setup input
      rw [equal]
      exact (moved.naming consistent arrival).consult
        (consult_naming setup _ (moved.consistent consistent))
  | some reported =>
      cases input with
      | shutdown => contradiction
      | command command => contradiction
      | event event =>
          cases event with
          | surfaceCreated handle key title chrome requested =>
              exact addSurface_naming setup consistent
          | _ => contradiction

/-! ## Ids lead to those who carry them -/

/-- An id leads only to a surface that carries it. -/
def LeadsToCarrier (state : Coordinator π) : Prop :=
  ∀ id handle, state.surfaceIds.surfaceFor? id = some handle →
    state.roster.carried? handle = some id

theorem Naming.leadsToCarrier (naming : Naming input state next)
    (paired : state.surfaceIds.Paired) (leads : state.LeadsToCarrier) :
    next.LeadsToCarrier := by
  intro id other led
  cases naming with
  | arrive asked absent ids carried =>
      rw [ids, SurfaceIds.surfaceFor?_name paired] at led
      rw [carried]
      split at led
      · rename_i named
        rw [if_pos (Option.some.inj led).symm, named]
      · split at led
        · contradiction
        · rename_i elsewhere
          rw [if_neg]
          · exact leads id other led
          · rintro rfl
            exact elsewhere led
  | refuse asked refused ids carried =>
      rw [ids, SurfaceIds.surfaceFor?_forget_name paired] at led
      split at led
      · contradiction
      · rw [carried]
        exact leads id other led
  | part handles silent ids carried =>
      rw [ids, SurfaceIds.surfaceFor?_forgetEach paired] at led
      rw [carried, if_neg led.2]
      exact leads id other led.1

theorem after_leadsToCarrier (setup : Setup π) (moments : List Moment) :
    (after setup moments).LeadsToCarrier := by
  induction moments using List.reverseRecOn with
  | nil =>
      intro id handle led
      simp [start, SurfaceIds.withStem, SurfaceIds.surfaceFor?] at led
  | append_singleton moments last ih =>
      rw [after_concat]
      exact (handleInput_naming _ (after_consistent setup moments) _).leadsToCarrier
        (after_paired setup moments) ih

/-- Looking ids up after any run, and thus after each input of a run: an id leads nowhere or to a
live surface that carries it. And so that ids do lead somewhere: the id of a surface that has just
come up leads to it, and is the one that was asked for. -/
theorem lookup_after (setup : Setup π) (moments : List Moment) :
    let state := after setup moments
    (∀ id handle, state.surfaceIds.surfaceFor? id = some handle →
      ∃ surface, state.roster.surface? handle = some surface ∧ surface.live = true ∧
        surface.persistentId = id) ∧
    ∀ surroundings handle key title chrome requested, ¬ state.roster.Refuses handle key →
      let next := (handleInput (setup.amid surroundings)
        (.event (.surfaceCreated handle key title chrome requested)) state).state
      ∃ surface, next.roster.surface? handle = some surface ∧
        next.surfaceIds.surfaceFor? surface.persistentId = some handle ∧
        ∀ id, requested = some id → surface.persistentId = id := by
  intro state
  have consistent : state.roster.Consistent := after_consistent setup moments
  constructor
  · intro id handle led
    obtain ⟨surface, found, carried⟩ :=
      Roster.carried?_eq_some_iff.1 (after_leadsToCarrier setup moments id handle led)
    exact ⟨surface, found, consistent.live_of_surface? found, carried⟩
  · intro surroundings handle key title chrome requested accepted next
    have naming : Naming (.event (.surfaceCreated handle key title chrome requested)) state next :=
      handleInput_naming _ consistent _
    cases naming with
    | part handles silent ids carried => contradiction
    | refuse asked refused ids carried =>
        cases asked
        exact absurd refused accepted
    | arrive asked absent ids carried =>
        cases asked
        have own := carried handle
        rw [if_pos rfl] at own
        obtain ⟨surface, found, named⟩ := Roster.carried?_eq_some_iff.1 own
        refine ⟨surface, found, ?_, ?_⟩
        · rw [named, ids, SurfaceIds.surfaceFor?_name (after_paired setup moments), if_pos rfl]
        · rintro id rfl
          exact named

/-! ## One window for each id -/

/-- No two surfaces carry the same id, and the id of each leads to it. -/
structure IdsIdentify (state : Coordinator π) : Prop where
  distinct : ∀ first second left right, state.roster.surface? first = some left →
    state.roster.surface? second = some right → left.persistentId = right.persistentId →
    first = second
  leads : ∀ handle surface, state.roster.surface? handle = some surface →
    state.surfaceIds.surfaceFor? surface.persistentId = some handle

/-- An input reports no surface that exists already, and asks for no id that a surface carries. -/
def Respects (state : Coordinator π) (input : Input) : Prop :=
  ∀ handle key requested, input.arrival? = some (handle, key, requested) →
    ∀ other surface, state.roster.surface? other = some surface →
      other ≠ handle ∧ requested ≠ some surface.persistentId

theorem idsIdentify_iff_carried :
    state.IdsIdentify ↔ ∀ handle id, state.roster.carried? handle = some id →
      state.surfaceIds.surfaceFor? id = some handle := by
  constructor
  · intro identify handle id carried
    obtain ⟨surface, found, rfl⟩ := Roster.carried?_eq_some_iff.1 carried
    exact identify.leads handle surface found
  · intro leads
    have own (handle : SurfaceHandle) (surface : Surface)
        (found : state.roster.surface? handle = some surface) :
        state.surfaceIds.surfaceFor? surface.persistentId = some handle :=
      leads handle _ (Roster.carried?_eq_some_iff.2 ⟨surface, found, rfl⟩)
    refine ⟨?_, own⟩
    intro first second left right foundLeft foundRight same
    have leadsFirst := own first left foundLeft
    rw [same, own second right foundRight] at leadsFirst
    exact (Option.some.inj leadsFirst).symm

theorem respects_iff_carried {requested : Option SurfaceId}
    (asked : input.arrival? = some (handle, key, requested)) :
    state.Respects input ↔ ∀ other id, state.roster.carried? other = some id →
      other ≠ handle ∧ requested ≠ some id := by
  rw [Respects, asked]
  constructor
  · intro respects other id carried
    obtain ⟨surface, found, rfl⟩ := Roster.carried?_eq_some_iff.1 carried
    exact respects _ _ _ rfl other surface found
  · rintro respects _ _ _ ⟨⟩ other surface found
    exact respects other _ (Roster.carried?_eq_some_iff.2 ⟨surface, found, rfl⟩)

theorem respects_of_silent (silent : input.arrival? = none) : state.Respects input := by
  intro handle key requested asked
  rw [silent] at asked
  contradiction

section Identify

variable (paired : state.surfaceIds.Paired) (leads : state.LeadsToCarrier)
  (identify : state.IdsIdentify)
include paired leads identify

/-- A new surface is named by an id that a surface carries only if it asks for that id. -/
theorem name_eq_iff {requested : Option SurfaceId} (free : state.roster.carried? handle = none)
    (carries : state.roster.carried? other = some id) :
    id = (state.surfaceIds.name requested handle).2 ↔ requested = some id := by
  cases requested with
  | some asked => exact ⟨fun equal => congrArg some equal.symm, fun equal => by cases equal; rfl⟩
  | none =>
      have unnamed : state.surfaceIds.bySurface.find? handle = none := by
        rw [paired.unnamed_iff]
        intro own led
        rw [leads own handle led] at free
        contradiction
      refine iff_of_false ?_ (Option.some_ne_none id).symm
      intro named
      have led := idsIdentify_iff_carried.1 identify other id carries
      rw [named, SurfaceIds.name, SurfaceIds.idFor_of_unnamed unnamed,
        SurfaceIds.surfaceFor?_nextId] at led
      contradiction

/-- Ids go on identifying windows exactly if the input respects those that exist. -/
theorem Naming.idsIdentify_next (naming : Naming input state next) :
    next.IdsIdentify ↔ state.Respects input := by
  have own := idsIdentify_iff_carried.1 identify
  rw [idsIdentify_iff_carried]
  cases naming with
  | part handles silent ids carried =>
      refine iff_of_true ?_ (respects_of_silent silent)
      intro handle id carries
      rw [carried] at carries
      rw [ids, SurfaceIds.surfaceFor?_forgetEach paired]
      split at carries
      · contradiction
      · rename_i stays
        exact ⟨own handle id carries, stays⟩
  | @arrive handle key requested asked absent ids carried =>
      have different (other : SurfaceHandle) (id : SurfaceId)
          (carries : state.roster.carried? other = some id) : other ≠ handle := by
        rintro rfl
        rw [absent] at carries
        contradiction
      have keeps (other : SurfaceHandle) (id : SurfaceId)
          (carries : state.roster.carried? other = some id) :
          next.surfaceIds.surfaceFor? id = some other ↔ requested ≠ some id := by
        rw [ids, SurfaceIds.surfaceFor?_name paired, own other id carries, ne_eq,
          ← name_eq_iff paired leads identify absent carries]
        simp [different other id carries, Ne.symm (different other id carries)]
      rw [respects_iff_carried asked]
      constructor
      · intro goesOn other id carries
        have elsewhere := different other id carries
        refine ⟨elsewhere, (keeps other id carries).1 (goesOn other id ?_)⟩
        rw [carried, if_neg elsewhere]
        exact carries
      · intro respects other id carries
        rw [carried] at carries
        split at carries
        · rename_i equal
          rw [ids, SurfaceIds.surfaceFor?_name paired, if_pos (Option.some.inj carries).symm, equal]
        · exact (keeps other id carries).2 (respects other id carries).2
  | @refuse handle key requested asked refused ids carried =>
      have keeps (other : SurfaceHandle) (id : SurfaceId)
          (carries : state.roster.carried? other = some id) :
          next.surfaceIds.surfaceFor? id = some other ↔
            other ≠ handle ∧ requested ≠ some id := by
        rw [ids, SurfaceIds.surfaceFor?_forget_name paired, own other id carries]
        simp [and_comm]
      rw [respects_iff_carried asked]
      constructor
      · intro goesOn other id carries
        exact (keeps other id carries).1 (goesOn other id ((carried other).trans carries))
      · intro respects other id carries
        rw [carried] at carries
        exact (keeps other id carries).2 (respects other id carries)

end Identify

/-- Ids identify windows after each input of a run exactly if each input meets a state that it
respects. An accepted creation reports no surface that exists already; so if all creations of a
run are accepted, what counts is that none asks for an id that a surface carries. -/
theorem ids_identify_iff_respected (setup : Setup π) (moments : List Moment) :
    (∀ earlier, earlier <+: moments → (after setup earlier).IdsIdentify) ↔
      ∀ earlier moment, earlier ++ [moment] <+: moments →
        (after setup earlier).Respects moment.input := by
  induction moments using List.reverseRecOn with
  | nil =>
      constructor
      · intro _ earlier moment inside
        simp at inside
      · intro _ earlier inside
        obtain rfl := List.prefix_nil.1 inside
        apply idsIdentify_iff_carried.2
        intro handle id carried
        simp [start, Roster.carried?, Roster.surface?, Roster.ownerOf?, Roster.empty] at carried
  | append_singleton moments last ih =>
      have step (identify : (after setup moments).IdsIdentify) :
          (after setup (moments ++ [last])).IdsIdentify ↔
            (after setup moments).Respects last.input := by
        rw [after_concat]
        exact Naming.idsIdentify_next (after_paired setup moments)
          (after_leadsToCarrier setup moments) identify
          (handleInput_naming _ (after_consistent setup moments) _)
      constructor
      · intro identify earlier moment inside
        have before := ih.1 fun shorter within =>
          identify shorter (within.trans (List.prefix_append ..))
        rcases List.prefix_concat_iff.1 inside with whole | shorter
        · obtain ⟨rfl, rfl⟩ := List.append_singleton_inj.1 whole
          exact (step (identify _ (List.prefix_append ..))).1 (identify _ (List.prefix_refl _))
        · exact before earlier moment shorter
      · intro respects earlier inside
        have before := ih.2 fun shorter moment within =>
          respects shorter moment (within.trans (List.prefix_append ..))
        rcases List.prefix_concat_iff.1 inside with whole | shorter
        · rw [whole]
          exact (step (before moments (List.prefix_refl _))).2
            (respects moments last (List.prefix_refl _))
        · exact before earlier shorter

/-! ## Two windows of one id -/

/-- A second window asks for the id of the first, which still exists. -/
def twoWindows : List Moment :=
  oneWindow ++
    [⟨.event (.surfaceCreated ⟨11⟩ ⟨1⟩ "" .normal (some ⟨"main"⟩)), plainSetup.surroundings⟩]

/-- Both windows come up and carry the id, which leads to the second. -/
theorem two_windows_of_one_id :
    let state := after plainSetup twoWindows
    Effect.notifications (effectsOf plainSetup twoWindows) =
      [.sessionAdded ⟨1⟩ "app", .surfaceAdded ⟨10⟩ ⟨1⟩, .surfaceAdded ⟨11⟩ ⟨1⟩] ∧
    (state.roster.surface? ⟨10⟩).map (·.persistentId) = some ⟨"main"⟩ ∧
    (state.roster.surface? ⟨11⟩).map (·.persistentId) = some ⟨"main"⟩ ∧
    state.surfaceIds.surfaceFor? ⟨"main"⟩ = some ⟨11⟩ := by
  decide

end Coordinator

end AppLifecycle
