import AppLifecycle.Proofs.Roster.Consistent

/-!
# Surfaces that come up, go and change hands

A session takes a surface in when the surface comes up, and gives it away when it goes; a surface
that changes hands is given away and taken in. Both keep a roster consistent.
-/

namespace AppLifecycle.Roster

variable {roster : Roster} {key other : SessionHandle} {session : Session}
  {handle : SurfaceHandle}

/-! ## Taking a surface in and giving one away -/

/-- The roster in which a session has taken a surface in. -/
def deliver (roster : Roster) (key : SessionHandle) (receiver : Session) (surface : Surface) :
    Roster :=
  { roster with
    sessions := roster.sessions.insert key (receiver.adopt surface)
    owners := roster.owners.insert surface.handle key }

/-- The roster in which a session has given a surface away. -/
def collect (roster : Roster) (key : SessionHandle) (giver : Session) (handle : SurfaceHandle) :
    Roster :=
  { roster with
    sessions := roster.sessions.insert key (giver.without handle)
    owners := roster.owners.erase handle }

theorem session?_deliver {receiver : Session} {surface : Surface} :
    (roster.deliver key receiver surface).session? other =
      if other = key then some (receiver.adopt surface) else roster.session? other :=
  KeyMap.find?_insert ..

theorem owners_deliver {receiver : Session} {surface : Surface} :
    (roster.deliver key receiver surface).owners.find? handle =
      if handle = surface.handle then some key else roster.owners.find? handle :=
  KeyMap.find?_insert ..

theorem session?_collect {giver : Session} :
    (roster.collect key giver handle).session? other =
      if other = key then some (giver.without handle) else roster.session? other :=
  KeyMap.find?_insert ..

theorem owners_collect {giver : Session} {candidate : SurfaceHandle} :
    (roster.collect key giver handle).owners.find? candidate =
      if candidate = handle then none else roster.owners.find? candidate :=
  KeyMap.find?_erase ..

/-- A handle that the index does not know is held by nobody. -/
theorem Consistent.not_mem_of_absent (consistent : roster.Consistent)
    (absent : roster.owners.find? handle = none) (found : roster.session? key = some session) :
    handle ∉ session.surfaceHandles := by
  intro member
  rw [consistent.owners_of_mem found member] at absent
  contradiction

theorem Consistent.deliver (consistent : roster.Consistent) {receiver : Session}
    (found : roster.session? key = some receiver) {surface : Surface}
    (absent : roster.owners.find? surface.handle = none) (live : surface.live = true) :
    (roster.deliver key receiver surface).Consistent where
  sound other candidate candidateFound := by
    rw [session?_deliver] at candidateFound
    split at candidateFound
    · rename_i equal
      rw [← Option.some.inj candidateFound, equal]
      exact (consistent.sound key receiver found).adopt
        (consistent.not_mem_of_absent absent found) live
    · exact consistent.sound other candidate candidateFound
  indexed handle other := by
    have fresh := consistent.not_mem_of_absent absent found
    rw [owners_deliver, session?_deliver]
    by_cases equal : other = key
    · subst equal
      have held := consistent.indexed handle other
      simp only [found, Option.some.injEq, exists_eq_left'] at held
      simp only [if_true, Option.some.injEq, exists_eq_left', Session.surfaceHandles_adopt fresh,
        List.mem_append, List.mem_singleton]
      split
      · rename_i same
        simp [same]
      · rename_i different
        simp [different, held]
    · rw [if_neg equal]
      split
      · rename_i same
        simp only [Option.some.injEq, Ne.symm equal, false_iff]
        rintro ⟨holder, holderFound, member⟩
        rw [same] at member
        exact consistent.not_mem_of_absent absent holderFound member
      · exact consistent.indexed handle other
  registered other := by
    change roster.registry.entries.find? other = _
    rw [consistent.registered, session?_deliver]
    by_cases equal : other = key
    · subst equal
      simp [found]
    · simp [equal]

theorem surface?_deliver (consistent : roster.Consistent) {receiver : Session}
    (found : roster.session? key = some receiver) {surface : Surface}
    (absent : roster.owners.find? surface.handle = none) (live : surface.live = true) :
    (roster.deliver key receiver surface).surface? handle =
      if handle = surface.handle then some { surface with owner := key }
      else roster.surface? handle := by
  have after := consistent.deliver found absent live
  have fresh := consistent.not_mem_of_absent absent found
  have filed : (roster.deliver key receiver surface).session? key =
      some (receiver.adopt surface) := by
    rw [session?_deliver, if_pos rfl]
  split
  · rename_i equal
    have member : handle ∈ (receiver.adopt surface).surfaceHandles := by
      rw [Session.surfaceHandles_adopt fresh, equal]
      simp
    rw [after.surface?_of_mem filed member, Session.surface?_adopt fresh, if_pos equal,
      (consistent.sound key receiver found).handle]
  · rename_i different
    apply consistent.surface?_eq after
    · intro other elsewhere
      rw [session?_deliver, if_neg elsewhere]
    · rw [filed, found, Option.bind_some, Option.bind_some, Session.surface?_adopt fresh,
        if_neg different]

theorem Consistent.collect (consistent : roster.Consistent) {giver : Session}
    (found : roster.session? key = some giver) (member : handle ∈ giver.surfaceHandles) :
    (roster.collect key giver handle).Consistent where
  sound other candidate candidateFound := by
    rw [session?_collect] at candidateFound
    split at candidateFound
    · rename_i equal
      rw [← Option.some.inj candidateFound, equal]
      exact (consistent.sound key giver found).without
    · exact consistent.sound other candidate candidateFound
  indexed candidate other := by
    rw [owners_collect, session?_collect]
    by_cases equal : other = key
    · subst equal
      have held := consistent.indexed candidate other
      simp only [found, Option.some.injEq, exists_eq_left'] at held
      simp only [if_true, Option.some.injEq, exists_eq_left', Session.mem_surfaceHandles_without]
      split
      · rename_i same
        simp [same]
      · rename_i different
        simp [different, held]
    · rw [if_neg equal]
      split
      · rename_i same
        simp only [reduceCtorEq, false_iff]
        rintro ⟨holder, holderFound, candidateMember⟩
        rw [same] at candidateMember
        exact equal (consistent.holder_unique holderFound candidateMember found member)
      · exact consistent.indexed candidate other
  registered other := by
    change roster.registry.entries.find? other = _
    rw [consistent.registered, session?_collect]
    by_cases equal : other = key
    · subst equal
      simp [found]
    · simp [equal]

theorem surface?_collect (consistent : roster.Consistent) {giver : Session}
    (found : roster.session? key = some giver) (member : handle ∈ giver.surfaceHandles)
    {candidate : SurfaceHandle} :
    (roster.collect key giver handle).surface? candidate =
      if candidate = handle then none else roster.surface? candidate := by
  have after := consistent.collect found member
  split
  · rename_i equal
    apply after.surface?_eq_none_iff.2
    rw [owners_collect, if_pos equal]
  · rename_i different
    apply consistent.surface?_eq after
    · intro other elsewhere
      rw [session?_collect, if_neg elsewhere]
    · rw [session?_collect, if_pos rfl, found, Option.bind_some, Option.bind_some,
        Session.surface?_without, if_neg different]

/-! ## Handing a surface over -/

section HandOver

variable {target : SessionHandle} {receiver : Session} {surface : Surface}
  (consistent : roster.Consistent) (found : roster.session? key = some session)
  (held : session.surface? handle = some surface)
  (foundTarget : roster.session? target = some receiver) (different : key ≠ target)
include consistent found held foundTarget different

theorem Consistent.not_mem_of_held : surface.handle ∉ receiver.surfaceHandles := by
  intro member
  rw [(Session.mem_of_surface?_eq_some held).2] at member
  exact different (consistent.holder_unique found
    (Session.mem_surfaceHandles_of_surface? held) foundTarget member)

omit consistent found held in
theorem session?_collect_target :
    (roster.collect key session handle).session? target = some receiver := by
  rw [session?_collect, if_neg (Ne.symm different)]
  exact foundTarget

omit consistent found foundTarget different in
theorem owners_collect_held :
    (roster.collect key session handle).owners.find? surface.handle = none := by
  rw [owners_collect, if_pos (Session.mem_of_surface?_eq_some held).2]

theorem Consistent.handOver :
    ((roster.collect key session handle).deliver target receiver surface).Consistent := by
  apply (consistent.collect found (Session.mem_surfaceHandles_of_surface? held)).deliver
  · exact session?_collect_target foundTarget different
  · exact owners_collect_held held
  · exact (consistent.sound key session found).live surface
      (Session.mem_of_surface?_eq_some held).1

/-- A surface that changes hands is found with its new owner, and all others as before. -/
theorem surface?_handOver {candidate : SurfaceHandle} :
    ((roster.collect key session handle).deliver target receiver surface).surface? candidate =
      if candidate = handle then some { surface with owner := target }
      else roster.surface? candidate := by
  have member := Session.mem_surfaceHandles_of_surface? held
  have surfaceHeld := Session.mem_of_surface?_eq_some held
  have live := (consistent.sound key session found).live surface surfaceHeld.1
  rw [surface?_deliver (consistent.collect found member)
    (session?_collect_target foundTarget different) (owners_collect_held held) live,
    surfaceHeld.2]
  split
  · rfl
  · rename_i untouched
    rw [surface?_collect consistent found member, if_neg untouched]

end HandOver

/-! ## What the operations come to -/

/-- A creation is refused if the handle is in use or the session is unknown or has stopped. -/
def Refuses (roster : Roster) (handle : SurfaceHandle) (key : SessionHandle) : Prop :=
  roster.owners.contains handle = true ∨
    ∀ session, roster.session? key = some session → session.state = .stopped

/-- Who is not refused has a free handle and a session to join. -/
theorem accepts_of_not_refuses (accepted : ¬ roster.Refuses handle key) :
    roster.owners.find? handle = none ∧ ∃ session, roster.session? key = some session := by
  constructor
  · rw [← KeyMap.contains_eq_false_iff, ← Bool.not_eq_true]
    exact fun used => accepted (.inl used)
  · cases found : roster.session? key with
    | none => exact absurd (.inr (by simp [found])) accepted
    | some session => exact ⟨session, rfl⟩

variable {persistentId : SurfaceId} {title : String} {chrome : ChromeLevel}

theorem addSurface_of_refused (refused : roster.Refuses handle key) :
    roster.addSurface handle key persistentId title chrome = .quiet roster none := by
  unfold addSurface
  split
  · rfl
  · rename_i unused
    split
    · rfl
    · rename_i session found
      rcases refused with used | stopped
      · exact absurd used unused
      · rw [if_pos (by simp [SessionState.isTerminal, stopped session found])]

theorem addSurface_of_accepted (absent : roster.owners.find? handle = none)
    (found : roster.session? key = some session) (active : session.state ≠ .stopped) :
    roster.addSurface handle key persistentId title chrome =
      ⟨roster.deliver key session (.create handle key persistentId title chrome),
        some (.create handle key persistentId title chrome),
        [.notify (.surfaceAdded handle key)]⟩ := by
  have unused : roster.owners.contains handle = false := KeyMap.contains_eq_false_iff.2 absent
  have running : session.state.isTerminal = false := by simpa [SessionState.isTerminal] using active
  simp only [addSurface, unused, found, running]
  rfl

theorem removeSurface_of_absent (absent : roster.owners.find? handle = none) :
    roster.removeSurface handle = .quiet roster none := by
  rw [removeSurface, absent]

theorem removeSurface_of_found (indexed : roster.owners.find? handle = some key)
    (found : roster.session? key = some session) {surface : Surface}
    (held : session.surface? handle = some surface) :
    roster.removeSurface handle =
      ⟨roster.collect key session handle, some (key, surface.markReleased.state),
        surface.markReleased.effects⟩ := by
  simp only [removeSurface, indexed, found, Option.bind_some, Session.take?_of_found held]
  rfl

/-- Without a surface to take away the handle is struck out of the index all the same. -/
theorem removeSurface_of_missing
    (missing : (roster.ownerOf? handle).bind (·.take? handle) = none) :
    roster.removeSurface handle =
      .quiet { roster with owners := roster.owners.erase handle } none := by
  cases indexed : roster.owners.find? handle with
  | none =>
      have same : roster.owners.erase handle = roster.owners := by
        apply KeyMap.ext_find?
        intro other
        rw [KeyMap.find?_erase]
        split
        · rename_i equal
          rw [equal, indexed]
        · rfl
      rw [removeSurface_of_absent indexed, same]
  | some key =>
      rw [ownerOf?, indexed, Option.bind_some] at missing
      simp only [removeSurface, indexed, missing]

theorem reparentSurface_of_found {target : SessionHandle} {receiver : Session}
    (indexed : roster.owners.find? handle = some key)
    (found : roster.session? key = some session) {surface : Surface}
    (held : session.surface? handle = some surface)
    (foundTarget : roster.session? target = some receiver) (active : receiver.state ≠ .stopped)
    (different : key ≠ target) :
    roster.reparentSurface handle target =
      .quiet ((roster.collect key session handle).deliver target receiver surface) true := by
  have running : receiver.state.isTerminal = false := by
    simpa [SessionState.isTerminal] using active
  have same : (roster.owners.erase handle).insert surface.handle target =
      roster.owners.insert handle target := by
    rw [(Session.mem_of_surface?_eq_some held).2]
    apply KeyMap.ext_find?
    intro candidate
    rw [KeyMap.find?_insert, KeyMap.find?_insert, KeyMap.find?_erase]
    split <;> rfl
  simp only [reparentSurface, foundTarget, indexed, running, found, different,
    Session.take?_of_found held, Bool.false_eq_true, if_false, deliver, collect, same]

theorem reparentSurface_of_unknown {target : SessionHandle}
    (absent : roster.session? target = none) :
    roster.reparentSurface handle target = .quiet roster false := by
  rw [reparentSurface, absent]

theorem reparentSurface_of_unowned {target : SessionHandle}
    (unowned : roster.ownerOf? handle = none) :
    roster.reparentSurface handle target = .quiet roster false := by
  cases found : roster.session? target with
  | none => exact reparentSurface_of_unknown found
  | some receiver =>
      rw [reparentSurface, found]
      cases indexed : roster.owners.find? handle with
      | none => rfl
      | some key =>
          have absent : roster.session? key = none := by
            rw [ownerOf?, indexed] at unowned
            exact unowned
          simp only [absent, ite_self]

end AppLifecycle.Roster
