import Mathlib.Data.List.Nodup
import AppLifecycle.Proofs.Roster.Consistent

/-!
# Sessions that come up and end

Admitting a session and discarding one with all it holds keep a roster consistent. Ending every
session is ending them one after the other, and leaves nobody.
-/

namespace AppLifecycle.Roster

variable {roster : Roster} {key other : SessionHandle} {session : Session}
  {handle : SurfaceHandle}

/-! ## A session that comes up -/

/-- The roster with a new session that is registered. -/
def enroll (roster : Roster) (key : SessionHandle) (pid : UInt32) (appId : String) : Roster :=
  { roster with
    sessions := roster.sessions.insert key (Session.create key pid appId)
    registry := roster.registry.register key key }

variable {pid : UInt32} {appId : String}

theorem addSession_of_absent (absent : roster.session? key = none) :
    roster.addSession key pid appId =
      ⟨roster.enroll key pid appId, Session.create key pid appId,
        [.notify (.sessionAdded key appId)]⟩ := by
  rw [addSession, absent]
  rfl

theorem addSession_of_found (found : roster.session? key = some session) :
    roster.addSession key pid appId = .quiet roster session := by
  rw [addSession, found]

theorem session?_enroll :
    (roster.enroll key pid appId).session? other =
      if other = key then some (Session.create key pid appId) else roster.session? other :=
  KeyMap.find?_insert ..

theorem Consistent.enroll (consistent : roster.Consistent) (absent : roster.session? key = none) :
    (roster.enroll key pid appId).Consistent where
  sound other candidate candidateFound := by
    rw [session?_enroll] at candidateFound
    split at candidateFound
    · rename_i equal
      rw [← Option.some.inj candidateFound, equal]
      exact Session.create_sound key pid appId
    · exact consistent.sound other candidate candidateFound
  indexed handle other := by
    change roster.owners.find? handle = some other ↔ _
    rw [consistent.indexed, session?_enroll]
    by_cases equal : other = key
    · subst equal
      simp [absent, Session.create, Session.surfaceHandles]
    · simp [equal]
  registered other := by
    change (roster.registry.entries.insert key key).find? other = _
    rw [KeyMap.find?_insert, consistent.registered, session?_enroll]
    by_cases equal : other = key
    · simp [equal]
    · simp [equal]

theorem surface?_enroll (consistent : roster.Consistent) (absent : roster.session? key = none) :
    (roster.enroll key pid appId).surface? handle = roster.surface? handle := by
  apply consistent.surface?_eq (consistent.enroll absent)
  · intro other different
    rw [session?_enroll, if_neg different]
  · rw [session?_enroll, if_pos rfl, absent]
    rfl

/-! ## A session that ends -/

/-- The roster without a session and what it holds. -/
def discard (roster : Roster) (key : SessionHandle) (session : Session) : Roster where
  sessions := roster.sessions.erase key
  owners := session.surfaceHandles.foldl KeyMap.erase roster.owners
  registry := roster.registry.unregister key

/-- What the shell is told as a session ends: it stops, its surfaces are released, it is gone. -/
def farewell (key : SessionHandle) (session : Session) : List Effect :=
  (session.apply .stop).effects ++
    (session.surfaces.flatMap fun surface => surface.markReleased.effects) ++
    [.notify (.sessionRemoved key)]

theorem state_removeSession (found : roster.session? key = some session) :
    (roster.removeSession key).state = roster.discard key session := by
  rw [removeSession, found]
  rfl

theorem effects_removeSession (found : roster.session? key = some session) :
    (roster.removeSession key).effects = farewell key session := by
  rw [removeSession, found]
  simp only [farewell, Session.releaseSurfaces, Session.apply]
  split <;> rfl

theorem removeSession_of_absent (absent : roster.session? key = none) :
    roster.removeSession key = .quiet roster none := by
  rw [removeSession, absent]

theorem session?_discard :
    (roster.discard key session).session? other =
      if other = key then none else roster.session? other :=
  KeyMap.find?_erase ..

theorem owners_discard :
    (roster.discard key session).owners.find? handle =
      if handle ∈ session.surfaceHandles then none else roster.owners.find? handle :=
  KeyMap.find?_foldl_erase ..

theorem Consistent.discard (consistent : roster.Consistent)
    (found : roster.session? key = some session) : (roster.discard key session).Consistent where
  sound other candidate candidateFound := by
    rw [session?_discard] at candidateFound
    split at candidateFound
    · contradiction
    · exact consistent.sound other candidate candidateFound
  indexed handle other := by
    rw [owners_discard, session?_discard]
    by_cases equal : other = key
    · subst equal
      simp only [if_true, reduceCtorEq, false_and, exists_false, iff_false]
      split
      · simp
      · rename_i absent
        intro indexed
        exact absent (consistent.mem_of_owners found indexed)
    · rw [if_neg equal]
      split
      · rename_i member
        simp only [reduceCtorEq, false_iff]
        rintro ⟨holder, holderFound, held⟩
        exact equal (consistent.holder_unique holderFound held found member)
      · exact consistent.indexed handle other
  registered other := by
    change (roster.registry.entries.erase key).find? other = _
    rw [KeyMap.find?_erase, consistent.registered, session?_discard]
    by_cases equal : other = key
    · simp [equal]
    · simp [equal]

theorem surface?_discard (consistent : roster.Consistent)
    (found : roster.session? key = some session) :
    (roster.discard key session).surface? handle =
      if handle ∈ session.surfaceHandles then none else roster.surface? handle := by
  have after := consistent.discard found
  split
  · rename_i member
    apply after.surface?_eq_none_iff.2
    rw [owners_discard, if_pos member]
  · rename_i absent
    apply consistent.surface?_eq after
    · intro other different
      rw [session?_discard, if_neg different]
    · rw [session?_discard, if_pos rfl, found, Option.bind_some,
        Session.surface?_eq_none_iff.2 absent]
      rfl

/-! ## Ending every session -/

/-- Ends some sessions, one after the other. -/
def removeEach (keys : List SessionHandle) (roster : Roster) : Step Roster Unit :=
  Step.forEach keys (fun key state => (state.removeSession key).answering ()) roster

private theorem foldl_removeSession (keys : List SessionHandle)
    (step : Step Roster (List Session)) :
    let last := keys.foldl
      (fun step key =>
        step.andThen fun removed state =>
          (state.removeSession key).andThen fun session next =>
            .quiet next (removed ++ session.toList)) step
    last.state = (step.state.removeEach keys).state ∧
      last.effects = step.effects ++ (step.state.removeEach keys).effects := by
  induction keys generalizing step with
  | nil => simp [removeEach, Step.forEach, Step.quiet]
  | cons key rest ih =>
      rw [List.foldl_cons]
      have later := ih (step.andThen fun removed state =>
        (state.removeSession key).andThen fun session next =>
          .quiet next (removed ++ session.toList))
      constructor
      · exact later.1
      apply later.2.trans
      simp [removeEach, Step.forEach, Step.andThen, Step.quiet, Step.answering]

/-- Ending every session is ending them one after the other, in handle order. -/
theorem state_removeAll : roster.removeAll.state = (roster.removeEach roster.sessions.keys).state :=
  (foldl_removeSession roster.sessions.keys (.quiet roster [])).1

theorem effects_removeAll :
    roster.removeAll.effects = (roster.removeEach roster.sessions.keys).effects :=
  (foldl_removeSession roster.sessions.keys (.quiet roster [])).2.trans (List.nil_append _)

theorem Consistent.removeSession (consistent : roster.Consistent) (key : SessionHandle) :
    (roster.removeSession key).state.Consistent := by
  cases found : roster.session? key with
  | none =>
      rw [removeSession_of_absent found]
      exact consistent
  | some session =>
      rw [state_removeSession found]
      exact consistent.discard found

theorem session?_removeSession :
    (roster.removeSession key).state.session? other =
      if other = key then none else roster.session? other := by
  cases found : roster.session? key with
  | none =>
      rw [removeSession_of_absent found]
      split
      · rename_i equal
        rw [equal]
        exact found
      · rfl
  | some session =>
      rw [state_removeSession found]
      exact session?_discard

theorem Consistent.removeEach (consistent : roster.Consistent) (keys : List SessionHandle) :
    (roster.removeEach keys).state.Consistent := by
  induction keys generalizing roster with
  | nil => exact consistent
  | cons key rest ih => exact ih (consistent.removeSession key)

theorem session?_removeEach (keys : List SessionHandle) :
    (roster.removeEach keys).state.session? other =
      if other ∈ keys then none else roster.session? other := by
  induction keys generalizing roster with
  | nil => simp [removeEach, Step.forEach, Step.quiet]
  | cons key rest ih =>
      have later := @ih (roster.removeSession key).state
      rw [session?_removeSession] at later
      apply Eq.trans later
      by_cases equal : other = key
      · simp [equal]
      · simp [equal]

theorem Consistent.removeAll (consistent : roster.Consistent) :
    roster.removeAll.state.Consistent := by
  rw [state_removeAll]
  exact consistent.removeEach roster.sessions.keys

/-- Nobody is left. -/
theorem session?_removeAll : roster.removeAll.state.session? key = none := by
  rw [state_removeAll, session?_removeEach]
  split
  · rfl
  · rename_i absent
    cases found : roster.session? key with
    | none => rfl
    | some session => exact absurd (KeyMap.mem_keys_iff.2 ⟨session, found⟩) absent

/-- The handles of a roster are those under which a surface is found. -/
theorem Consistent.mem_surfaceHandles_iff (consistent : roster.Consistent) :
    handle ∈ roster.surfaceHandles ↔ ∃ surface, roster.surface? handle = some surface := by
  rw [surfaceHandles, List.mem_flatMap]
  constructor
  · rintro ⟨session, member, held⟩
    obtain ⟨key, found⟩ := KeyMap.mem_values_iff.1 member
    rw [consistent.surface?_of_mem found held]
    exact Session.exists_surface?_of_mem held
  · rintro ⟨surface, found⟩
    obtain ⟨key, session, filed, held⟩ := consistent.surface?_eq_some_iff.1 found
    exact ⟨session, KeyMap.mem_values_iff.2 ⟨key, filed⟩,
      Session.mem_surfaceHandles_of_surface? held⟩

/-- No handle occurs twice, be it in one session or in two. -/
theorem Consistent.nodup_surfaceHandles (consistent : roster.Consistent) :
    roster.surfaceHandles.Nodup := by
  rw [surfaceHandles, List.nodup_flatMap]
  constructor
  · intro session member
    rcases KeyMap.mem_values_iff.1 member with ⟨key, found⟩
    exact (consistent.sound key session found).distinct
  · rw [KeyMap.values, List.pairwise_map]
    apply roster.sessions.sorted.imp_of_mem
    intro first second firstMember secondMember before handle inFirst inSecond
    have same := consistent.holder_unique (KeyMap.find?_eq_some_iff.2 firstMember) inFirst
      (KeyMap.find?_eq_some_iff.2 secondMember) inSecond
    rw [same, KeyOrder.before_irrefl] at before
    exact Bool.false_ne_true before

/-- All that was held is gone. -/
theorem surface?_removeAll (consistent : roster.Consistent) :
    roster.removeAll.state.surface? handle =
      if handle ∈ roster.surfaceHandles then none else roster.surface? handle := by
  have gone : roster.removeAll.state.surface? handle = none := by
    cases found : roster.removeAll.state.surface? handle with
    | none => rfl
    | some surface =>
        obtain ⟨key, session, filed, _⟩ := consistent.removeAll.surface?_eq_some_iff.1 found
        rw [session?_removeAll] at filed
        contradiction
  rw [gone]
  split
  · rfl
  · rename_i absent
    rw [consistent.mem_surfaceHandles_iff, ← Option.isSome_iff_exists,
      Option.not_isSome_iff_eq_none] at absent
    exact absent.symm

end AppLifecycle.Roster
