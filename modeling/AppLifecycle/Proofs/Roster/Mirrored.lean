import Mathlib.Data.List.Nodup
import Mathlib.Data.List.Perm.Basic
import AppLifecycle.Proofs.Mirror
import AppLifecycle.Proofs.Roster.SessionLife
import AppLifecycle.Proofs.Roster.SurfaceLife

/-!
# Rosters and their mirrors

A mirror reflects a roster if it shows each session and each surface as it is, and no others.
Every operation of a roster that keeps it consistent tells enough for a mirror to follow.
-/

namespace AppLifecycle

namespace Roster

variable {roster : Roster}

/-- The surfaces of a roster are those that are found under their handles. -/
theorem Consistent.mem_surfaces_iff (consistent : roster.Consistent) {surface : Surface} :
    surface ∈ roster.surfaces ↔ roster.surface? surface.handle = some surface := by
  rw [surfaces, List.mem_flatMap, consistent.surface?_eq_some_iff]
  constructor
  · rintro ⟨session, member, held⟩
    rcases KeyMap.mem_values_iff.1 member with ⟨key, found⟩
    have distinct := (consistent.sound key session found).distinct
    exact ⟨key, session, found, (Session.surface?_eq_some_iff distinct).2 ⟨held, rfl⟩⟩
  · rintro ⟨key, session, found, held⟩
    exact ⟨session, KeyMap.mem_values_iff.2 ⟨key, found⟩, (Session.mem_of_surface?_eq_some held).1⟩

theorem Consistent.nodup_handles_surfaces (consistent : roster.Consistent) :
    (roster.surfaces.map (·.handle)).Nodup := by
  rw [surfaces, List.map_flatMap]
  exact consistent.nodup_surfaceHandles

/-- A snapshot shows the surfaces of the roster, in an order of its own. -/
theorem surfaces_snapshot_perm {awake : Bool} :
    ((roster.snapshot awake).sessions.flatMap (·.surfaces)).Perm
      (roster.surfaces.map SurfaceSnapshot.ofSurface) := by
  rw [snapshot, surfaces, List.map_flatMap, List.flatMap_map]
  exact List.Perm.flatMap_left _ fun session _ => List.mergeSort_perm _ _

end Roster

/-- The mirror shows what is in the roster, and whether the wake lock is held. -/
structure Mirror.Reflects (mirror : Mirror) (roster : Roster) (awake : Bool) : Prop where
  sessions : ∀ key, mirror.sessions.find? key = (roster.session? key).map .ofSession
  surfaces : ∀ handle, mirror.surfaces.find? handle = (roster.surface? handle).map .ofSurface
  titles : ∀ handle title, mirror.titles.find? handle = some title →
    ∃ surface, roster.surface? handle = some surface ∧ surface.title = title
  awake : mirror.awake = awake

namespace Mirror.Reflects

variable {α : Type} {mirror : Mirror} {roster later : Roster} {awake : Bool}
  {key : SessionHandle} {handle : SurfaceHandle} {session : Session} {surface : Surface}

theorem blank_reflects : Mirror.blank.Reflects .empty false where
  sessions key := by simp [blank, Roster.empty, Roster.session?]
  surfaces handle := by simp [blank, Roster.empty, Roster.surface?, Roster.ownerOf?]
  titles handle title known := by simp [blank] at known
  awake := rfl

theorem shows_of_found (reflects : mirror.Reflects roster awake) (consistent : roster.Consistent)
    (found : roster.surface? handle = some surface) : mirror.Shows surface where
  pane := by
    rw [consistent.handle_of_surface? found, reflects.surfaces, found, Option.map_some]
  title title known := by
    rw [consistent.handle_of_surface? found] at known
    rcases reflects.titles handle title known with ⟨held, heldFound, rfl⟩
    rw [found] at heldFound
    rw [Option.some.inj heldFound]

/-! ## Nothing is told -/

/-- Nothing needs to be told as long as nothing that shows has changed. -/
theorem unchanged (reflects : mirror.Reflects roster awake)
    (sessions : ∀ key, (later.session? key).map Tile.ofSession =
      (roster.session? key).map Tile.ofSession)
    (surfaces : ∀ handle, (later.surface? handle).map (fun surface =>
        (Pane.ofSurface surface, surface.title)) =
      (roster.surface? handle).map fun surface => (Pane.ofSurface surface, surface.title)) :
    mirror.Reflects later awake where
  sessions key := by rw [sessions, reflects.sessions]
  surfaces handle := by
    have panes := congrArg (Option.map Prod.fst) (surfaces handle)
    rw [Option.map_map, Option.map_map] at panes
    rw [reflects.surfaces]
    exact panes.symm
  titles handle title known := by
    rcases reflects.titles handle title known with ⟨surface, found, rfl⟩
    have texts := congrArg (Option.map Prod.snd) (surfaces handle)
    rw [Option.map_map, Option.map_map, found] at texts
    rcases Option.map_eq_some_iff.1 texts with ⟨latter, latterFound, same⟩
    exact ⟨latter, latterFound, same⟩
  awake := reflects.awake

/-- The change of hands of a surface does not show. -/
theorem handOver (reflects : mirror.Reflects roster awake) (consistent : roster.Consistent)
    {target : SessionHandle} {receiver : Session}
    (found : roster.session? key = some session) (held : session.surface? handle = some surface)
    (foundTarget : roster.session? target = some receiver) (different : key ≠ target) :
    mirror.Reflects ((roster.collect key session handle).deliver target receiver surface)
      awake := by
  have fresh := consistent.not_mem_of_held found held foundTarget different
  apply reflects.unchanged
  · intro other
    rw [Roster.session?_deliver, Roster.session?_collect]
    split
    · rename_i equal
      rw [equal, foundTarget, Session.adopt_of_not_mem fresh]
      rfl
    · split
      · rename_i equal
        rw [equal, found]
        rfl
      · rfl
  · intro other
    rw [Roster.surface?_handOver consistent found held foundTarget different]
    split
    · rename_i equal
      have member := Session.mem_surfaceHandles_of_surface? held
      rw [equal, consistent.surface?_of_mem found member, held]
      rfl
    · rfl

/-! ## Surfaces -/

theorem onSurface (reflects : mirror.Reflects roster awake) (consistent : roster.Consistent)
    {act : Surface → Step Surface α} (gentle : Surface.Gentle act) (told : Surface.Told act) :
    (mirror.read (roster.onSurface handle act).effects).Reflects
      (roster.onSurface handle act).state awake := by
  have tiles (key : SessionHandle) :
      ((roster.onSurface handle act).state.session? key).map Tile.ofSession =
        (roster.session? key).map Tile.ofSession := by
    apply Roster.map_session?_onSurface
    intro session
    unfold Session.onSurface
    split <;> rfl
  rw [Roster.effects_onSurface consistent]
  cases found : roster.surface? handle with
  | none =>
      apply reflects.unchanged tiles
      intro other
      rw [Roster.surface?_onSurface gentle consistent, found]
      split
      · rename_i equal
        rw [equal, found]
        rfl
      · rfl
  | some surface =>
      rw [Option.map_some, Option.getD_some]
      have isHandle := consistent.handle_of_surface? found
      rcases told surface mirror (consistent.live_of_surface? found)
        (reflects.shows_of_found consistent found) with ⟨shown, same⟩
      constructor
      · intro key
        rw [tiles, same.sessions, reflects.sessions]
      · intro other
        rw [Roster.surface?_onSurface gentle consistent, found]
        split
        · rename_i equal
          rw [equal, ← isHandle, ← (gentle surface).handle, shown.pane]
          rfl
        · rename_i different
          rw [same.surfaces other (isHandle ▸ different), reflects.surfaces]
      · intro other title known
        rw [Roster.surface?_onSurface gentle consistent, found]
        split
        · rename_i equal
          rw [equal, ← isHandle, ← (gentle surface).handle] at known
          exact ⟨_, rfl, (shown.title title known).symm⟩
        · rename_i different
          rw [same.titles other (isHandle ▸ different)] at known
          exact reflects.titles other title known
      · rw [same.awake, reflects.awake]

theorem arrive (reflects : mirror.Reflects roster awake) (consistent : roster.Consistent)
    (found : roster.session? key = some session)
    (absent : roster.owners.find? handle = none) {persistentId : SurfaceId} {title : String}
    {chrome : ChromeLevel} :
    (mirror.note (.surfaceAdded handle key)).Reflects
      (roster.deliver key session (.create handle key persistentId title chrome)) awake := by
  have fresh : (Surface.create handle key persistentId title chrome).handle ∉
      session.surfaceHandles := consistent.not_mem_of_absent absent found
  have delivered (other : SurfaceHandle) :
      (roster.deliver key session (.create handle key persistentId title chrome)).surface? other =
        if other = handle then some (.create handle key persistentId title chrome)
        else roster.surface? other :=
    Roster.surface?_deliver consistent found absent rfl
  constructor
  · intro other
    apply (reflects.sessions other).trans
    rw [Roster.session?_deliver]
    split
    · rename_i equal
      rw [equal, found, Session.adopt_of_not_mem fresh]
      rfl
    · rfl
  · intro other
    rw [delivered]
    simp only [Mirror.note, KeyMap.find?_insert]
    split
    · rfl
    · exact reflects.surfaces other
  · intro other known knownIs
    simp only [Mirror.note, KeyMap.find?_erase] at knownIs
    split at knownIs
    · contradiction
    · rename_i different
      rw [delivered, if_neg different]
      exact reflects.titles other known knownIs
  · exact reflects.awake

/-- A mirror that loses what the roster loses reflects it still. -/
theorem loses {latter : Mirror} {handles : List SurfaceHandle}
    (reflects : mirror.Reflects roster awake) (lost : Mirror.Loses handles mirror latter)
    (sessions : ∀ key, (later.session? key).map Tile.ofSession =
      (roster.session? key).map Tile.ofSession)
    (surfaces : ∀ handle, later.surface? handle =
      if handle ∈ handles then none else roster.surface? handle) :
    latter.Reflects later awake where
  sessions key := by rw [sessions, lost.sessions, reflects.sessions]
  surfaces other := by
    rw [surfaces, lost.surfaces]
    split
    · rfl
    · exact reflects.surfaces other
  titles other known knownIs := by
    rw [lost.titles] at knownIs
    split at knownIs
    · contradiction
    · rename_i kept
      rw [surfaces, if_neg kept]
      exact reflects.titles other known knownIs
  awake := lost.awake.trans reflects.awake

theorem depart (reflects : mirror.Reflects roster awake) (consistent : roster.Consistent)
    (found : roster.session? key = some session)
    (held : session.surface? handle = some surface) :
    (mirror.read surface.markReleased.effects).Reflects (roster.collect key session handle)
      awake := by
  have member := Session.mem_surfaceHandles_of_surface? held
  have surfaceHeld := Session.mem_of_surface?_eq_some held
  have live := (consistent.sound key session found).live surface surfaceHeld.1
  apply reflects.loses (Mirror.loses_markReleased live)
  · intro other
    rw [Roster.session?_collect]
    split
    · rename_i equal
      rw [equal, found]
      rfl
    · rfl
  · intro other
    rw [Roster.surface?_collect consistent found member, surfaceHeld.2]
    simp only [List.mem_singleton]

/-! ## Sessions -/

theorem enroll (reflects : mirror.Reflects roster awake) (consistent : roster.Consistent)
    (absent : roster.session? key = none) {pid : UInt32} {appId : String} :
    (mirror.note (.sessionAdded key appId)).Reflects (roster.enroll key pid appId) awake where
  sessions other := by
    rw [Roster.session?_enroll]
    simp only [Mirror.note, KeyMap.find?_insert]
    split
    · rfl
    · exact reflects.sessions other
  surfaces other := by
    rw [Roster.surface?_enroll consistent absent]
    exact reflects.surfaces other
  titles other known knownIs := by
    rw [Roster.surface?_enroll consistent absent]
    exact reflects.titles other known knownIs
  awake := reflects.awake

theorem advance (reflects : mirror.Reflects roster awake) (consistent : roster.Consistent)
    (found : roster.session? key = some session) {target : SessionState}
    (active : target ≠ .stopped) :
    (mirror.note (.sessionStateChanged key target)).Reflects
      (roster.put key { session with state := target }) awake where
  sessions other := by
    rw [Roster.session?_put]
    simp only [Mirror.note, KeyMap.find?_modify]
    split
    · rw [reflects.sessions, found]
      rfl
    · exact reflects.sessions other
  surfaces other := by
    rw [Roster.surface?_move consistent found active]
    exact reflects.surfaces other
  titles other known knownIs := by
    rw [Roster.surface?_move consistent found active]
    exact reflects.titles other known knownIs
  awake := reflects.awake

/-- A session that ends takes its leave in full. -/
theorem finish (reflects : mirror.Reflects roster awake) (consistent : roster.Consistent)
    (found : roster.session? key = some session) :
    (mirror.read (Roster.farewell key session)).Reflects (roster.discard key session) awake := by
  have sound := consistent.sound key session found
  have stopping : (session.apply .stop).effects =
      [.notify (.sessionStateChanged key .stopped)] := by
    rw [← sound.handle]
    cases state : session.state with
    | stopped => exact absurd state sound.active
    | starting | running | suspending | suspended =>
        simp only [Session.apply, state, LifecycleOp.target?]
  rw [Roster.farewell, stopping, Mirror.read_append, Mirror.read_append, Mirror.read_notify,
    Mirror.read_nil]
  have lost : Mirror.Loses session.surfaceHandles (mirror.note (.sessionStateChanged key .stopped))
      (Mirror.read (session.surfaces.flatMap fun surface => surface.markReleased.effects)
        (mirror.note (.sessionStateChanged key .stopped))) :=
    Mirror.loses_released sound.live _
  constructor
  · intro other
    rw [Roster.session?_discard, Mirror.read_notify, Mirror.read_nil]
    apply (KeyMap.find?_erase _ key other).trans
    rw [lost.sessions]
    split
    · rfl
    · rename_i different
      simp only [Mirror.note, KeyMap.find?_modify, if_neg different]
      exact reflects.sessions other
  · intro other
    apply (lost.surfaces other).trans
    rw [Roster.surface?_discard consistent found]
    split
    · rfl
    · exact reflects.surfaces other
  · intro other known knownIs
    have kept := (lost.titles other).symm.trans knownIs
    split at kept
    · contradiction
    · rename_i notLost
      rw [Roster.surface?_discard consistent found, if_neg notLost]
      exact reflects.titles other known kept
  · exact lost.awake.trans reflects.awake

theorem removeSession (reflects : mirror.Reflects roster awake) (consistent : roster.Consistent)
    (key : SessionHandle) :
    (mirror.read (roster.removeSession key).effects).Reflects (roster.removeSession key).state
      awake := by
  cases found : roster.session? key with
  | none =>
      rw [Roster.removeSession_of_absent found]
      exact reflects
  | some session =>
      rw [Roster.state_removeSession found, Roster.effects_removeSession found]
      exact reflects.finish consistent found

theorem removeEach (reflects : mirror.Reflects roster awake) (consistent : roster.Consistent)
    (keys : List SessionHandle) :
    (mirror.read (roster.removeEach keys).effects).Reflects (roster.removeEach keys).state
      awake := by
  induction keys generalizing roster mirror with
  | nil => exact reflects
  | cons key rest ih =>
      have later := ih (reflects.removeSession consistent key) (consistent.removeSession key)
      rw [← Mirror.read_append] at later
      exact later

theorem removeAll (reflects : mirror.Reflects roster awake) (consistent : roster.Consistent) :
    (mirror.read roster.removeAll.effects).Reflects roster.removeAll.state awake := by
  rw [Roster.state_removeAll, Roster.effects_removeAll]
  exact reflects.removeEach consistent roster.sessions.keys

/-! ## Snapshots -/

/-- The sessions of the mirror are those of the roster, in the same order. -/
theorem entries_sessions (reflects : mirror.Reflects roster awake)
    (consistent : roster.Consistent) :
    mirror.sessions.entries =
      (roster.snapshot awake).sessions.map fun session =>
        (session.session, ⟨session.appId, session.state⟩) := by
  have same : mirror.sessions = roster.sessions.mapValues .ofSession := by
    apply KeyMap.ext_find?
    intro key
    rw [KeyMap.find?_mapValues]
    exact reflects.sessions key
  rw [same, KeyMap.entries_mapValues, Roster.snapshot, KeyMap.values, List.map_map, List.map_map]
  apply List.map_congr_left
  intro entry member
  have sound := consistent.sound entry.1 entry.2 (KeyMap.find?_eq_some_iff.2 member)
  exact Prod.ext sound.handle.symm rfl

/-- The surfaces of the mirror are those of the roster. -/
theorem entries_surfaces_perm (reflects : mirror.Reflects roster awake)
    (consistent : roster.Consistent) :
    mirror.surfaces.entries.Perm
      (roster.surfaces.map fun surface => (surface.handle, Pane.ofSurface surface)) := by
  have left : mirror.surfaces.entries.Nodup := .of_map Prod.fst mirror.surfaces.nodup_keys
  have right : (roster.surfaces.map fun surface =>
      (surface.handle, Pane.ofSurface surface)).Nodup := by
    apply List.Nodup.of_map Prod.fst
    rw [List.map_map]
    exact consistent.nodup_handles_surfaces
  rw [List.perm_ext_iff_of_nodup left right]
  rintro ⟨handle, pane⟩
  rw [← KeyMap.find?_eq_some_iff, reflects.surfaces, Option.map_eq_some_iff, List.mem_map]
  constructor
  · rintro ⟨surface, found, rfl⟩
    have isHandle := consistent.handle_of_surface? found
    subst isHandle
    exact ⟨surface, consistent.mem_surfaces_iff.2 found, rfl⟩
  · rintro ⟨surface, member, same⟩
    cases same
    exact ⟨surface, consistent.mem_surfaces_iff.1 member, rfl⟩

end Mirror.Reflects

end AppLifecycle
