import AppLifecycle.Proofs.KeyMap
import AppLifecycle.Proofs.Session
import AppLifecycle.Roster

/-!
# Who holds what

A roster is consistent if each session is sound under the handle it is filed under, the index
leads from a surface to the one session that holds it, and the registry knows the sessions that
exist and no others. Every operation that a roster offers keeps it consistent, and what can be
looked up afterwards is said by one equation for sessions and one for surfaces.
-/

namespace AppLifecycle.Roster

variable {α : Type} {roster : Roster} {key other : SessionHandle} {session : Session}
  {handle : SurfaceHandle}

/-- The sessions, the index and the registry tell the same story. -/
structure Consistent (roster : Roster) : Prop where
  sound : ∀ key session, roster.session? key = some session → session.Sound key
  indexed : ∀ handle key, roster.owners.find? handle = some key ↔
    ∃ session, roster.session? key = some session ∧ handle ∈ session.surfaceHandles
  registered : ∀ key, roster.registry.entries.find? key = (roster.session? key).map fun _ => key

theorem empty_consistent : empty.Consistent where
  sound := by simp [session?, empty]
  indexed := by simp [session?, empty]
  registered := by simp [session?, empty, Registry.empty]

/-! ## Looking up in a consistent roster -/

namespace Consistent

variable (consistent : roster.Consistent)
include consistent

theorem owners_of_mem (found : roster.session? key = some session)
    (member : handle ∈ session.surfaceHandles) : roster.owners.find? handle = some key :=
  (consistent.indexed handle key).2 ⟨session, found, member⟩

theorem mem_of_owners (found : roster.session? key = some session)
    (indexed : roster.owners.find? handle = some key) : handle ∈ session.surfaceHandles := by
  rcases (consistent.indexed handle key).1 indexed with ⟨held, heldFound, member⟩
  rw [found] at heldFound
  rw [Option.some.inj heldFound]
  exact member

/-- A surface is held by one session only. -/
theorem holder_unique {holder : Session} (found : roster.session? key = some session)
    (member : handle ∈ session.surfaceHandles) (foundHolder : roster.session? other = some holder)
    (memberHolder : handle ∈ holder.surfaceHandles) : key = other := by
  have left := consistent.owners_of_mem found member
  have right := consistent.owners_of_mem foundHolder memberHolder
  exact Option.some.inj (left.symm.trans right)

theorem surface?_of_mem (found : roster.session? key = some session)
    (member : handle ∈ session.surfaceHandles) :
    roster.surface? handle = session.surface? handle := by
  rw [surface?, ownerOf?, consistent.owners_of_mem found member]
  simp [found]

/-- A surface is found exactly in a session that holds it. -/
theorem surface?_eq_some_iff {surface : Surface} :
    roster.surface? handle = some surface ↔
      ∃ key session, roster.session? key = some session ∧
        session.surface? handle = some surface := by
  constructor
  · intro found
    rcases Option.bind_eq_some_iff.1 found with ⟨session, owned, held⟩
    rcases Option.bind_eq_some_iff.1 owned with ⟨key, _, filed⟩
    exact ⟨key, session, filed, held⟩
  · rintro ⟨key, session, filed, held⟩
    have member := Session.mem_surfaceHandles_of_surface? held
    rw [consistent.surface?_of_mem filed member, held]

theorem surface?_eq_none_iff :
    roster.surface? handle = none ↔ roster.owners.find? handle = none := by
  constructor
  · intro absent
    cases indexed : roster.owners.find? handle with
    | none => rfl
    | some key =>
        rcases (consistent.indexed handle key).1 indexed with ⟨session, found, member⟩
        rcases Session.exists_surface?_of_mem member with ⟨surface, held⟩
        rw [consistent.surface?_of_mem found member, held] at absent
        contradiction
  · intro absent
    rw [surface?, ownerOf?, absent]
    rfl

theorem ownerOf?_of_owners (indexed : roster.owners.find? handle = some key) :
    ∃ session, roster.ownerOf? handle = some session ∧ roster.session? key = some session ∧
      handle ∈ session.surfaceHandles := by
  rcases (consistent.indexed handle key).1 indexed with ⟨session, found, member⟩
  refine ⟨session, ?_, found, member⟩
  rw [ownerOf?, indexed]
  exact found

theorem live_of_surface? {surface : Surface} (found : roster.surface? handle = some surface) :
    surface.live = true := by
  rcases consistent.surface?_eq_some_iff.1 found with ⟨key, session, filed, held⟩
  exact (consistent.sound key session filed).live surface
    (Session.mem_of_surface?_eq_some held).1

theorem handle_of_surface? {surface : Surface} (found : roster.surface? handle = some surface) :
    surface.handle = handle := by
  rcases consistent.surface?_eq_some_iff.1 found with ⟨key, session, filed, held⟩
  exact (Session.mem_of_surface?_eq_some held).2

/-- The owner that a surface names holds it. -/
theorem exists_owner {surface : Surface} (found : roster.surface? handle = some surface) :
    ∃ session, roster.session? surface.owner = some session ∧
      session.surface? handle = some surface := by
  obtain ⟨key, session, filed, held⟩ := consistent.surface?_eq_some_iff.1 found
  have owned := (consistent.sound key session filed).owned surface
    (Session.mem_of_surface?_eq_some held).1
  rw [owned]
  exact ⟨session, filed, held⟩

theorem owner_eq_iff {surface : Surface} (found : roster.surface? handle = some surface)
    (filed : roster.session? key = some session) :
    surface.owner = key ↔ handle ∈ session.surfaceHandles := by
  obtain ⟨holder, owned, held⟩ := consistent.exists_owner found
  have member := Session.mem_surfaceHandles_of_surface? held
  constructor
  · rintro rfl
    cases owned.symm.trans filed
    exact member
  · intro memberToo
    exact consistent.holder_unique owned member filed memberToo

/-- The registry finds what is managed. -/
theorem findSession?_eq (key : SessionHandle) : roster.findSession? key = roster.session? key := by
  rw [findSession?, Registry.find?, consistent.registered]
  cases found : roster.session? key with
  | none => rfl
  | some session => simp [found]

theorem registry_size : roster.registry.size = roster.sessions.size := by
  apply KeyMap.size_eq_of_isSome_eq
  intro key
  rw [consistent.registered, Option.isSome_map]
  rfl

end Consistent

/-- Rosters are known from what is looked up in them. -/
theorem ext_find? {first second : Roster}
    (sessions : ∀ key, first.session? key = second.session? key)
    (owners : first.owners = second.owners)
    (registry : ∀ key, first.registry.entries.find? key = second.registry.entries.find? key) :
    first = second := by
  have sessionsEqual : first.sessions = second.sessions := KeyMap.ext_find? sessions
  have registryEqual : first.registry.entries = second.registry.entries := KeyMap.ext_find? registry
  rcases first with ⟨_, _, ⟨_⟩⟩
  rcases second with ⟨_, _, ⟨_⟩⟩
  cases sessionsEqual
  cases owners
  cases registryEqual
  rfl

/-- All else follows from the sessions. -/
theorem Consistent.eq_of_session? {first second : Roster} (left : first.Consistent)
    (right : second.Consistent) (same : ∀ key, first.session? key = second.session? key) :
    first = second := by
  have owners : first.owners = second.owners := by
    apply KeyMap.ext_find?
    intro handle
    apply Option.ext
    intro key
    rw [left.indexed, right.indexed, same]
  apply ext_find? same owners
  intro key
  rw [left.registered, right.registered, same]

private theorem found_again {first second : Roster}
    (elsewhere : ∀ other, other ≠ key → first.session? other = second.session? other)
    (here : (first.session? key).bind (·.surface? handle) =
      (second.session? key).bind (·.surface? handle)) {surface : Surface} :
    (∃ key session, first.session? key = some session ∧
      session.surface? handle = some surface) →
    ∃ key session, second.session? key = some session ∧
      session.surface? handle = some surface := by
  rintro ⟨other, holder, holderFound, held⟩
  by_cases equal : other = key
  · subst equal
    rw [holderFound, Option.bind_some, held] at here
    rcases Option.bind_eq_some_iff.1 here.symm with ⟨holder, found, heldThere⟩
    exact ⟨other, holder, found, heldThere⟩
  · exact ⟨other, holder, (elsewhere other equal).symm.trans holderFound, held⟩

/-- Where the session under one key is all that differs, a surface that this session has as
before is found as before. -/
theorem Consistent.surface?_eq {later : Roster} (consistent : roster.Consistent)
    (after : later.Consistent)
    (elsewhere : ∀ other, other ≠ key → later.session? other = roster.session? other)
    (here : (later.session? key).bind (·.surface? handle) =
      (roster.session? key).bind (·.surface? handle)) :
    later.surface? handle = roster.surface? handle := by
  apply Option.ext
  intro surface
  rw [after.surface?_eq_some_iff, consistent.surface?_eq_some_iff]
  constructor
  · exact found_again elsewhere here
  · exact found_again (fun other different => (elsewhere other different).symm) here.symm

/-! ## Acting on one session -/

/-- The roster with a session filed under a handle. -/
def put (roster : Roster) (key : SessionHandle) (session : Session) : Roster :=
  { roster with sessions := roster.sessions.insert key session }

theorem session?_put :
    (roster.put key session).session? other =
      if other = key then some session else roster.session? other :=
  KeyMap.find?_insert ..

/-- A session that is put in its own place changes nothing. -/
theorem put_self (found : roster.session? key = some session) :
    roster.put key session = roster := by
  refine ext_find? (fun other => ?_) rfl fun _ => rfl
  rw [session?_put]
  split
  · rename_i equal
    rw [equal, found]
  · rfl

/-- A session may be replaced by one that holds the same surfaces. -/
theorem Consistent.put (consistent : roster.Consistent) {former : Session}
    (found : roster.session? key = some former) (sound : session.Sound key)
    (same : session.surfaceHandles = former.surfaceHandles) :
    (roster.put key session).Consistent where
  sound other candidate candidateFound := by
    rw [session?_put] at candidateFound
    split at candidateFound
    · rename_i equal
      rw [← Option.some.inj candidateFound, equal]
      exact sound
    · exact consistent.sound other candidate candidateFound
  indexed handle other := by
    change roster.owners.find? handle = some other ↔ _
    rw [consistent.indexed, session?_put]
    by_cases equal : other = key
    · subst equal
      simp [found, same]
    · simp [equal]
  registered other := by
    change roster.registry.entries.find? other = _
    rw [consistent.registered, session?_put]
    by_cases equal : other = key
    · subst equal
      simp [found]
    · simp [equal]

theorem surface?_put (consistent : roster.Consistent) {former : Session}
    (found : roster.session? key = some former) (sound : session.Sound key)
    (same : session.surfaceHandles = former.surfaceHandles) :
    (roster.put key session).surface? handle =
      if handle ∈ former.surfaceHandles then session.surface? handle
      else roster.surface? handle := by
  have after := consistent.put found sound same
  have filed : (roster.put key session).session? key = some session := by
    rw [session?_put, if_pos rfl]
  split
  · rename_i member
    exact after.surface?_of_mem filed (same ▸ member)
  · rename_i absent
    apply consistent.surface?_eq after
    · intro other different
      rw [session?_put, if_neg different]
    · rw [filed, found, Option.bind_some, Option.bind_some,
        Session.surface?_eq_none_iff.2 (same ▸ absent), Session.surface?_eq_none_iff.2 absent]

theorem onSession_of_found (found : roster.session? key = some session)
    (act : Session → Step Session α) :
    roster.onSession key act =
      ⟨roster.put key (act session).state, some (act session).answer, (act session).effects⟩ := by
  rw [onSession, found]
  rfl

theorem onSession_of_absent (absent : roster.session? key = none)
    (act : Session → Step Session α) : roster.onSession key act = .quiet roster none := by
  rw [onSession, absent]

/-- A session that moves along the transition graph without stopping stays in its place. -/
theorem Consistent.move (consistent : roster.Consistent)
    (found : roster.session? key = some session) {target : SessionState}
    (active : target ≠ .stopped) :
    (roster.put key { session with state := target }).Consistent :=
  consistent.put found ((consistent.sound key session found).withState active) rfl

theorem surface?_move (consistent : roster.Consistent)
    (found : roster.session? key = some session) {target : SessionState}
    (active : target ≠ .stopped) :
    (roster.put key { session with state := target }).surface? handle = roster.surface? handle := by
  rw [surface?_put consistent found ((consistent.sound key session found).withState active) rfl]
  split
  · rename_i member
    exact (consistent.surface?_of_mem found member).symm
  · rfl

/-! ## Acting on one surface -/

section Surface

variable {act : Surface → Step Surface α}

theorem onSurface_of_absent (absent : roster.owners.find? handle = none) :
    roster.onSurface handle act = .quiet roster none := by
  rw [onSurface, absent]

theorem onSurface_of_found (indexed : roster.owners.find? handle = some key)
    (found : roster.session? key = some session) :
    roster.onSurface handle act =
      (roster.onSession key (·.onSurface handle act)).answering
        (session.onSurface handle act).answer := by
  rw [onSurface, indexed]
  simp only [onSession_of_found found, Step.answering]
  rfl

theorem onSurface_of_missing (missing : roster.surface? handle = none) :
    roster.onSurface handle act = .quiet roster none := by
  cases indexed : roster.owners.find? handle with
  | none => exact onSurface_of_absent indexed
  | some key =>
      rw [onSurface, indexed]
      cases found : roster.session? key with
      | none =>
          simp only [onSession_of_absent found, Step.quiet, Step.answering, Option.join_none]
      | some session =>
          have absent : session.surface? handle = none := by
            rw [surface?, ownerOf?, indexed, Option.bind_some, found] at missing
            exact missing
          simp only [onSession_of_found found, Session.onSurface_of_absent absent,
            Step.quiet, Step.answering, put_self found]
          rfl

/-- An action on a surface leaves the index alone. -/
theorem owners_onSurface : (roster.onSurface handle act).state.owners = roster.owners := by
  unfold onSurface
  split
  · simp only [onSession]
    split <;> rfl
  · rfl

/-- What a session shows of itself apart from its surfaces stays the same. -/
theorem map_session?_onSurface {β : Type} {look : Session → β}
    (same : ∀ session : Session, look (session.onSurface handle act).state = look session) :
    ((roster.onSurface handle act).state.session? key).map look =
      (roster.session? key).map look := by
  unfold onSurface
  cases roster.owners.find? handle with
  | none => rfl
  | some owner =>
      cases found : roster.session? owner with
      | none =>
          simp only [onSession_of_absent found]
          rfl
      | some session =>
          simp only [onSession_of_found found, Step.answering, session?_put]
          split
          · rename_i equal
            rw [equal, found, Option.map_some, Option.map_some, same]
          · rfl

theorem effects_onSurface (consistent : roster.Consistent) :
    (roster.onSurface handle act).effects =
      ((roster.surface? handle).map fun surface => (act surface).effects).getD [] := by
  cases indexed : roster.owners.find? handle with
  | none =>
      rw [onSurface_of_absent indexed, consistent.surface?_eq_none_iff.2 indexed]
      rfl
  | some key =>
      rcases (consistent.indexed handle key).1 indexed with ⟨session, found, member⟩
      rcases Session.exists_surface?_of_mem member with ⟨surface, held⟩
      rw [onSurface_of_found indexed found, consistent.surface?_of_mem found member, held,
        onSession_of_found found]
      exact Session.effects_onSurface held

variable (gentle : Surface.Gentle act) (consistent : roster.Consistent)
include gentle consistent

theorem Consistent.onSessionSurface :
    (roster.onSession key (·.onSurface handle act)).state.Consistent := by
  cases found : roster.session? key with
  | none =>
      rw [onSession_of_absent found]
      exact consistent
  | some session =>
      rw [onSession_of_found found]
      exact consistent.put found ((consistent.sound key session found).onSurface gentle)
        (Session.surfaceHandles_onSurface gentle)

theorem Consistent.onSurface : (roster.onSurface handle act).state.Consistent := by
  cases indexed : roster.owners.find? handle with
  | none =>
      rw [onSurface_of_absent indexed]
      exact consistent
  | some key =>
      rcases (consistent.indexed handle key).1 indexed with ⟨session, found, _⟩
      rw [onSurface_of_found indexed found]
      exact consistent.onSessionSurface gentle

/-- Acting on a surface through its session changes that surface and no other. -/
theorem surface?_onSessionSurface (found : roster.session? key = some session)
    (member : handle ∈ session.surfaceHandles) {candidate : SurfaceHandle} :
    (roster.onSession key (·.onSurface handle act)).state.surface? candidate =
      if candidate = handle then
        (roster.surface? handle).map fun surface => (act surface).state
      else roster.surface? candidate := by
  rw [onSession_of_found found]
  have sound : (session.onSurface handle act).state.Sound key :=
    (consistent.sound key session found).onSurface gentle
  rw [surface?_put consistent found sound (Session.surfaceHandles_onSurface gentle),
    Session.surface?_onSurface gentle, consistent.surface?_of_mem found member]
  by_cases equal : candidate = handle
  · subst equal
    simp [member]
  · simp only [equal, if_false]
    split
    · rename_i held
      exact (consistent.surface?_of_mem found held).symm
    · rfl

theorem surface?_onSurface {candidate : SurfaceHandle} :
    (roster.onSurface handle act).state.surface? candidate =
      if candidate = handle then
        (roster.surface? handle).map fun surface => (act surface).state
      else roster.surface? candidate := by
  cases indexed : roster.owners.find? handle with
  | none =>
      have absent := consistent.surface?_eq_none_iff.2 indexed
      rw [onSurface_of_absent indexed, absent]
      split
      · rename_i equal
        rw [equal]
        exact absent
      · rfl
  | some key =>
      rcases (consistent.indexed handle key).1 indexed with ⟨session, found, member⟩
      rw [onSurface_of_found indexed found]
      exact surface?_onSessionSurface gentle consistent found member

end Surface

end AppLifecycle.Roster
