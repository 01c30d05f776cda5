import AppLifecycle.Proofs.Surface
import AppLifecycle.Session

/-!
# What a session holds

A session is sound under a handle if it goes by that handle, has not stopped, and holds live
surfaces of its own, no two of one handle. Taking a surface in, giving one away, touching one and
moving along the transition graph keep a session sound, and each is described by the surfaces
that are found afterwards.
-/

namespace AppLifecycle.Session

variable {α : Type} {session : Session} {key : SessionHandle} {handle other : SurfaceHandle}

/-- How a session stands in a roster that files it under `key`. -/
structure Sound (key : SessionHandle) (session : Session) : Prop where
  handle : session.handle = key
  active : session.state ≠ .stopped
  distinct : session.surfaceHandles.Nodup
  live : ∀ surface ∈ session.surfaces, surface.live = true
  owned : ∀ surface ∈ session.surfaces, surface.owner = key

/-! ## Finding surfaces -/

theorem mem_of_surface?_eq_some {surface : Surface}
    (found : session.surface? handle = some surface) :
    surface ∈ session.surfaces ∧ surface.handle = handle :=
  ⟨List.mem_of_find?_eq_some found, by simpa using List.find?_some found⟩

theorem surface?_eq_none_iff :
    session.surface? handle = none ↔ handle ∉ session.surfaceHandles := by
  simp [surface?, surfaceHandles]

theorem surface?_isSome_iff :
    (session.surface? handle).isSome = true ↔ handle ∈ session.surfaceHandles := by
  simp [surface?, surfaceHandles]

theorem mem_surfaceHandles_of_surface? {surface : Surface}
    (found : session.surface? handle = some surface) : handle ∈ session.surfaceHandles :=
  surface?_isSome_iff.1 (Option.isSome_of_eq_some found)

theorem exists_surface?_of_mem (member : handle ∈ session.surfaceHandles) :
    ∃ surface, session.surface? handle = some surface :=
  Option.isSome_iff_exists.1 (surface?_isSome_iff.2 member)

/-- Behind a surface none is found under its handle if its handle does not occur there. -/
theorem find?_behind {first : Surface} {rest : List Surface}
    (fresh : first.handle ∉ rest.map (·.handle)) (named : first.handle = handle) :
    rest.find? (fun surface => surface.handle = handle) = none := by
  apply List.find?_eq_none.2
  intro surface member same
  apply fresh
  rw [named, ← of_decide_eq_true same]
  exact List.mem_map_of_mem member

private theorem find?_of_mem {surfaces : List Surface}
    (distinct : (surfaces.map (·.handle)).Nodup) {surface : Surface} (member : surface ∈ surfaces) :
    surfaces.find? (fun other => other.handle = surface.handle) = some surface := by
  induction surfaces with
  | nil => simp at member
  | cons first rest ih =>
      rw [List.map_cons, List.nodup_cons] at distinct
      rcases List.mem_cons.1 member with rfl | later
      · simp
      · have different : first.handle ≠ surface.handle := by
          intro equal
          exact distinct.1 (equal ▸ List.mem_map_of_mem later)
        rw [List.find?_cons_of_neg (by simpa using different)]
        exact ih distinct.2 later

/-- Without two surfaces of one handle, looking a surface up finds the one there is. -/
theorem surface?_eq_some_iff (distinct : session.surfaceHandles.Nodup) {surface : Surface} :
    session.surface? handle = some surface ↔
      surface ∈ session.surfaces ∧ surface.handle = handle := by
  constructor
  · exact mem_of_surface?_eq_some
  · rintro ⟨member, rfl⟩
    exact find?_of_mem distinct member

/-! ## A new session and one that moves -/

theorem create_sound (key : SessionHandle) (pid : UInt32) (appId : String) :
    (create key pid appId).Sound key where
  handle := rfl
  active := by simp [create]
  distinct := List.nodup_nil
  live := by simp [create]
  owned := by simp [create]

theorem Sound.withState (sound : session.Sound key) {target : SessionState}
    (active : target ≠ .stopped) : ({ session with state := target } : Session).Sound key :=
  { sound with active := active }

/-- A session moves whatever surfaces it holds. -/
theorem apply_withSurfaces (session : Session) (surfaces : List Surface) (op : LifecycleOp) :
    ({ session with surfaces := surfaces } : Session).apply op =
      ⟨{ (session.apply op).state with surfaces := surfaces }, (session.apply op).answer,
        (session.apply op).effects⟩ := by
  simp only [apply]
  split <;> rfl

theorem apply_state (session : Session) (op : LifecycleOp) :
    ∃ state, (session.apply op).state = { session with state := state } := by
  rw [apply]
  split
  · exact ⟨_, rfl⟩
  · exact ⟨session.state, rfl⟩

/-! ## Touching a surface -/

section Touch

variable {act : Surface → Step Surface α}

theorem onSurface_of_absent (absent : session.surface? handle = none) :
    session.onSurface handle act = .quiet session none := by
  rw [onSurface, absent]

theorem onSurface_of_found {surface : Surface} (found : session.surface? handle = some surface) :
    session.onSurface handle act =
      ⟨{ session with
          surfaces := session.surfaces.map fun candidate =>
            if candidate.handle = handle then (act surface).state else candidate },
        some (act surface).answer, (act surface).effects⟩ := by
  rw [onSurface, found]

theorem effects_onSurface {surface : Surface} (found : session.surface? handle = some surface) :
    (session.onSurface handle act).effects = (act surface).effects := by
  rw [onSurface_of_found found]

variable (gentle : Surface.Gentle act)
include gentle

private theorem handle_touched (surface : Surface) (found : surface.handle = handle)
    (candidate : Surface) :
    (if candidate.handle = handle then (act surface).state else candidate).handle =
      candidate.handle := by
  split
  · rename_i equal
    rw [(gentle surface).handle, found, equal]
  · rfl

theorem surfaceHandles_onSurface :
    (session.onSurface handle act).state.surfaceHandles = session.surfaceHandles := by
  cases found : session.surface? handle with
  | none => rw [onSurface_of_absent found, Step.quiet]
  | some surface =>
      rw [onSurface_of_found found]
      simp only [surfaceHandles, List.map_map]
      apply List.map_congr_left
      intro candidate _
      exact handle_touched gentle surface (mem_of_surface?_eq_some found).2 candidate

theorem surface?_onSurface :
    (session.onSurface handle act).state.surface? other =
      if other = handle then (session.surface? handle).map fun surface => (act surface).state
      else session.surface? other := by
  cases found : session.surface? handle with
  | none =>
      rw [onSurface_of_absent found]
      split
      · rename_i equal
        rw [equal]
        exact found
      · rfl
  | some surface =>
      have handleFound := (mem_of_surface?_eq_some found).2
      have mapped : (session.onSurface handle act).state.surface? other =
          (session.surface? other).map fun candidate =>
            if candidate.handle = handle then (act surface).state else candidate := by
        rw [onSurface_of_found found]
        simp only [surface?, List.find?_map, Function.comp_def,
          handle_touched gentle surface handleFound]
      rw [mapped]
      split
      · rename_i equal
        rw [equal, found, Option.map_some, Option.map_some, if_pos handleFound]
      · rename_i different
        cases otherFound : session.surface? other with
        | none => rfl
        | some candidate =>
            have handleOther := (mem_of_surface?_eq_some otherFound).2
            rw [Option.map_some, if_neg (by rw [handleOther]; exact different)]

theorem Sound.onSurface (sound : session.Sound key) :
    (session.onSurface handle act).state.Sound key := by
  cases found : session.surface? handle with
  | none =>
      rw [onSurface_of_absent found]
      exact sound
  | some surface =>
      have member := (mem_of_surface?_eq_some found).1
      have distinct : (session.onSurface handle act).state.surfaceHandles = _ :=
        surfaceHandles_onSurface gentle
      rw [onSurface_of_found found] at distinct ⊢
      constructor
      · exact sound.handle
      · exact sound.active
      · exact distinct ▸ sound.distinct
      · intro candidate candidateMember
        rcases List.mem_map.1 candidateMember with ⟨former, formerMember, rfl⟩
        split
        · exact (gentle surface).live.trans (sound.live surface member)
        · exact sound.live former formerMember
      · intro candidate candidateMember
        rcases List.mem_map.1 candidateMember with ⟨former, formerMember, rfl⟩
        split
        · exact (gentle surface).owner.trans (sound.owned surface member)
        · exact sound.owned former formerMember

end Touch

/-! ## Taking surfaces in and giving them away -/

theorem adopt_of_not_mem {surface : Surface} (fresh : surface.handle ∉ session.surfaceHandles) :
    session.adopt surface =
      { session with
        surfaces := session.surfaces ++ [{ surface with owner := session.handle }] } := by
  rw [adopt, if_neg fresh]

theorem surfaceHandles_adopt {surface : Surface}
    (fresh : surface.handle ∉ session.surfaceHandles) :
    (session.adopt surface).surfaceHandles = session.surfaceHandles ++ [surface.handle] := by
  rw [adopt_of_not_mem fresh]
  simp [surfaceHandles]

theorem surface?_adopt {surface : Surface} (fresh : surface.handle ∉ session.surfaceHandles) :
    (session.adopt surface).surface? other =
      if other = surface.handle then some { surface with owner := session.handle }
      else session.surface? other := by
  rw [adopt_of_not_mem fresh]
  simp only [surface?, List.find?_append]
  by_cases equal : other = surface.handle
  · subst equal
    have absent := surface?_eq_none_iff.2 fresh
    rw [surface?] at absent
    simp [absent]
  · simp [equal, Ne.symm equal]

theorem Sound.adopt {surface : Surface} (sound : session.Sound key)
    (fresh : surface.handle ∉ session.surfaceHandles) (live : surface.live = true) :
    (session.adopt surface).Sound key := by
  have distinct : (session.adopt surface).surfaceHandles.Nodup := by
    have apart : ∀ held ∈ session.surfaceHandles, ∀ last ∈ [surface.handle], held ≠ last := by
      intro held heldMember last lastMember equal
      rw [List.mem_singleton.1 lastMember] at equal
      exact fresh (equal ▸ heldMember)
    rw [surfaceHandles_adopt fresh]
    exact List.nodup_append.2 ⟨sound.distinct, by simp, apart⟩
  rw [adopt_of_not_mem fresh] at distinct ⊢
  constructor
  · exact sound.handle
  · exact sound.active
  · exact distinct
  · intro candidate member
    rcases List.mem_append.1 member with held | last
    · exact sound.live candidate held
    · rw [List.mem_singleton.1 last]
      exact live
  · intro candidate member
    rcases List.mem_append.1 member with held | last
    · exact sound.owned candidate held
    · rw [List.mem_singleton.1 last]
      exact sound.handle

/-- The session without the surface of a handle. -/
def without (session : Session) (handle : SurfaceHandle) : Session :=
  { session with surfaces := session.surfaces.filter fun surface => surface.handle ≠ handle }

theorem take?_of_found {surface : Surface} (found : session.surface? handle = some surface) :
    session.take? handle = some (surface, session.without handle) := by
  rw [take?, found]
  rfl

theorem surfaceHandles_without :
    (session.without handle).surfaceHandles =
      session.surfaceHandles.filter fun held => held ≠ handle := by
  simp [without, surfaceHandles, List.filter_map, Function.comp_def]

theorem mem_surfaceHandles_without :
    other ∈ (session.without handle).surfaceHandles ↔
      other ∈ session.surfaceHandles ∧ other ≠ handle := by
  rw [surfaceHandles_without]
  simp

theorem surface?_without :
    (session.without handle).surface? other =
      if other = handle then none else session.surface? other := by
  split
  · rename_i equal
    apply surface?_eq_none_iff.2
    intro member
    exact (mem_surfaceHandles_without.1 member).2 equal
  · rename_i different
    simp only [without, surface?, List.find?_filter]
    congr 1
    funext candidate
    by_cases equal : candidate.handle = other
    · simp [equal, different]
    · simp [equal]

theorem Sound.without (sound : session.Sound key) : (session.without handle).Sound key where
  handle := sound.handle
  active := sound.active
  distinct := by
    rw [surfaceHandles_without]
    exact sound.distinct.filter _
  live surface member := sound.live surface (List.mem_filter.1 member |>.1)
  owned surface member := sound.owned surface (List.mem_filter.1 member |>.1)

end AppLifecycle.Session
