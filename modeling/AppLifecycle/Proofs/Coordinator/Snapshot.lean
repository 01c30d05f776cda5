import Mathlib.Data.List.Nodup
import Mathlib.Data.List.Perm.Basic
import AppLifecycle.Proofs.Coordinator.Focus
import AppLifecycle.Proofs.WakeLock

/-!
# What a snapshot shows

A page of a snapshot shows one session, with a pane for each of its surfaces, in strictly ascending
order of their handles. There is only one such page for a session, in whatever order the session
took its surfaces (`SessionSnapshot.Shows.eq_of_perm`). After every run the pages are those of the
managed sessions, in strictly ascending order as well, and together they show each surface once
(`snapshot_canonical`).
-/

namespace AppLifecycle

/-- A pane with everything on it that is shown of a surface. Its owner and its frames are not. -/
structure SurfaceSnapshot.Shows (pane : SurfaceSnapshot) (surface : Surface) : Prop where
  handle : pane.surface = surface.handle
  persistentId : pane.persistentId = surface.persistentId
  title : pane.title = surface.title
  chrome : pane.chrome = surface.chrome
  live : pane.live = surface.live
  firstFrameDrawn : pane.firstFrameDrawn = surface.firstFrameDrawn
  dropperRunning : pane.dropperRunning = surface.dropperRunning
  presentation : pane.presentation = surface.presentation
  focused : pane.focused = surface.focused

/-- A page with everything on it that a session has, its surfaces in strict order. -/
structure SessionSnapshot.Shows (page : SessionSnapshot) (session : Session) : Prop where
  handle : page.session = session.handle
  pid : page.pid = session.pid
  appId : page.appId = session.appId
  state : page.state = session.state
  surfaces : ∀ pane, pane ∈ page.surfaces ↔ ∃ surface ∈ session.surfaces, pane.Shows surface
  ascending : page.surfaces.Pairwise fun first second => first.surface.raw < second.surface.raw

/-! ## Handles in order -/

theorem SessionHandle.before_iff {first second : SessionHandle} :
    KeyOrder.before first second = true ↔ first.raw < second.raw := by
  rw [UInt64.lt_iff_toNat_lt]
  exact decide_eq_true_iff

namespace SurfaceSnapshot

variable {panes : List SurfaceSnapshot}

/-- There is one pane for a surface. -/
theorem shows_iff {pane : SurfaceSnapshot} {surface : Surface} :
    pane.Shows surface ↔ .ofSurface surface = pane := by
  constructor
  · rintro ⟨handle, persistentId, title, chrome, live, drawn, dropper, presentation, focused⟩
    cases pane
    simp only [ofSurface, mk.injEq]
    exact ⟨handle.symm, persistentId.symm, title.symm, chrome.symm, live.symm, drawn.symm,
      dropper.symm, presentation.symm, focused.symm⟩
  · rintro rfl
    exact ⟨rfl, rfl, rfl, rfl, rfl, rfl, rfl, rfl, rfl⟩

theorem handleLe_trans (first second third : SurfaceSnapshot) (left : first.handleLe second = true)
    (right : second.handleLe third = true) : first.handleLe third = true := by
  simp only [handleLe, decide_eq_true_eq] at *
  exact UInt64.le_trans left right

theorem handleLe_total (first second : SurfaceSnapshot) :
    (first.handleLe second || second.handleLe first) = true := by
  simp only [handleLe, Bool.or_eq_true, decide_eq_true_eq]
  exact UInt64.le_total ..

/-- Sorting panes of different handles leaves no two side by side that are level. -/
theorem mergeSort_ascending (distinct : (panes.map (·.surface)).Nodup) :
    (panes.mergeSort handleLe).Pairwise fun first second =>
      first.surface.raw < second.surface.raw := by
  have sorted := List.pairwise_mergeSort handleLe_trans handleLe_total panes
  have distinctSorted : (panes.mergeSort handleLe).Pairwise fun first second =>
      first.surface ≠ second.surface :=
    List.pairwise_map.1 (((List.mergeSort_perm panes handleLe).map _).nodup_iff.2 distinct)
  refine (sorted.and distinctSorted).imp ?_
  rintro ⟨⟨first⟩, _⟩ ⟨⟨second⟩, _⟩ ⟨le, different⟩
  have below : first ≤ second := by simpa [handleLe] using le
  have apart : first ≠ second := by simpa using different
  exact UInt64.lt_of_le_of_ne below apart

/-- Panes in strictly ascending order are known from their members. -/
theorem eq_of_mem_iff {others : List SurfaceSnapshot}
    (left : panes.Pairwise fun first second => first.surface.raw < second.surface.raw)
    (right : others.Pairwise fun first second => first.surface.raw < second.surface.raw)
    (same : ∀ pane, pane ∈ panes ↔ pane ∈ others) : panes = others := by
  have nodup {panes : List SurfaceSnapshot}
      (ascending : panes.Pairwise fun first second => first.surface.raw < second.surface.raw) :
      panes.Nodup :=
    ascending.imp fun {first second} below equal => by
      rw [equal] at below
      exact absurd below (UInt64.lt_irrefl _)
  have perm : panes.Perm others := (List.perm_ext_iff_of_nodup (nodup left) (nodup right)).2 same
  refine perm.eq_of_pairwise ?_ left right
  intro first second _ _ below above
  exact absurd (UInt64.lt_trans below above) (UInt64.lt_irrefl _)

end SurfaceSnapshot

/-! ## One page -/

namespace SessionSnapshot

variable {session : Session} {page other : SessionSnapshot}

theorem shows_ofSession (distinct : session.surfaceHandles.Nodup) :
    (ofSession session).Shows session where
  handle := rfl
  pid := rfl
  appId := rfl
  state := rfl
  surfaces pane := by simp [ofSession, ofParts, SurfaceSnapshot.shows_iff]
  ascending := by
    apply SurfaceSnapshot.mergeSort_ascending
    rw [List.map_map]
    exact distinct

/-- Of a session there is one page, in whatever order it holds its surfaces. -/
theorem Shows.eq_of_perm {surfaces : List Surface} (left : page.Shows session)
    (right : other.Shows { session with surfaces := surfaces })
    (perm : surfaces.Perm session.surfaces) : page = other := by
  have panes : page.surfaces = other.surfaces := by
    apply SurfaceSnapshot.eq_of_mem_iff left.ascending right.ascending
    intro pane
    rw [left.surfaces, right.surfaces]
    simp only [perm.mem_iff]
  cases page
  cases other
  simp only [mk.injEq]
  exact ⟨left.handle.trans right.handle.symm, left.pid.trans right.pid.symm,
    left.appId.trans right.appId.symm, left.state.trans right.state.symm, panes⟩

end SessionSnapshot

/-! ## All pages -/

namespace Roster

variable {roster : Roster} {awake : Bool}

theorem mem_snapshot_iff {page : SessionSnapshot} :
    page ∈ (roster.snapshot awake).sessions ↔
      ∃ key session, roster.session? key = some session ∧ .ofSession session = page := by
  rw [snapshot, List.mem_map]
  constructor
  · rintro ⟨session, member, rfl⟩
    obtain ⟨key, found⟩ := KeyMap.mem_values_iff.1 member
    exact ⟨key, session, found, rfl⟩
  · rintro ⟨key, session, found, rfl⟩
    exact ⟨session, KeyMap.mem_values_iff.2 ⟨key, found⟩, rfl⟩

variable (consistent : roster.Consistent)
include consistent

/-- Sessions are filed under their own handles, so the order of the keys is that of the pages. -/
theorem Consistent.ascending_snapshot :
    (roster.snapshot awake).sessions.Pairwise fun first second =>
      first.session.raw < second.session.raw := by
  rw [snapshot, KeyMap.values, List.map_map]
  apply List.pairwise_map.2
  apply roster.sessions.sorted.imp_of_mem
  rintro ⟨firstKey, first⟩ ⟨secondKey, second⟩ firstMember secondMember before
  have firstSound := consistent.sound _ _ (KeyMap.find?_eq_some_iff.2 firstMember)
  have secondSound := consistent.sound _ _ (KeyMap.find?_eq_some_iff.2 secondMember)
  change first.handle.raw < second.handle.raw
  rw [firstSound.handle, secondSound.handle]
  exact SessionHandle.before_iff.1 before

theorem Consistent.mem_panes_iff {pane : SurfaceSnapshot} :
    pane ∈ (roster.snapshot awake).sessions.flatMap (·.surfaces) ↔
      ∃ surface, roster.surface? pane.surface = some surface ∧ pane.Shows surface := by
  rw [surfaces_snapshot_perm.mem_iff, List.mem_map]
  simp only [consistent.mem_surfaces_iff, SurfaceSnapshot.shows_iff]
  constructor
  · rintro ⟨surface, found, rfl⟩
    exact ⟨surface, found, rfl⟩
  · rintro ⟨surface, found, rfl⟩
    exact ⟨surface, found, rfl⟩

theorem Consistent.nodup_panes :
    (((roster.snapshot awake).sessions.flatMap (·.surfaces)).map (·.surface)).Nodup := by
  rw [(surfaces_snapshot_perm.map _).nodup_iff, List.map_map]
  exact consistent.nodup_handles_surfaces

end Roster

namespace Coordinator

variable {π : Type}

/-- The focus is nowhere or in one place, and no two panes show the same place. -/
theorem FocusKnown.length_focused_le {state : Coordinator π} (known : state.FocusKnown)
    (consistent : state.roster.Consistent) :
    ((state.snapshot.sessions.flatMap (·.surfaces)).filter (·.focused)).length ≤ 1 := by
  have marked : ∀ pane ∈ (state.snapshot.sessions.flatMap (·.surfaces)).filter (·.focused),
      state.focused = some pane.surface := by
    intro pane member
    obtain ⟨shown, focused⟩ := List.mem_filter.1 member
    obtain ⟨surface, found, shows⟩ := consistent.mem_panes_iff.1 shown
    exact (known pane.surface).2 ⟨surface, found, shows.focused.symm.trans focused⟩
  have distinct : (state.snapshot.sessions.flatMap (·.surfaces)).Pairwise fun first second =>
      first.surface ≠ second.surface :=
    List.pairwise_map.1 consistent.nodup_panes
  -- Two panes with the focus would both show the surface that is remembered.
  have distinctFocused := distinct.filter (·.focused)
  cases focused : (state.snapshot.sessions.flatMap (·.surfaces)).filter (·.focused) with
  | nil => exact Nat.zero_le 1
  | cons first rest =>
      cases rest with
      | nil => exact Nat.le_refl 1
      | cons second rest =>
          rw [focused] at marked distinctFocused
          have here := marked first (by simp)
          have there := marked second (by simp)
          have apart := (List.pairwise_cons.1 distinctFocused).1 second (by simp)
          exact absurd (Option.some.inj (here.symm.trans there)) apart

/-- The snapshot after any run, and thus after each input of a run: its pages show the managed
sessions, none of them stopped, in strictly ascending order, each as its one page. No surface is
shown twice, and those shown are those that are found, each as it is. All of them are live and at
most one has the focus, and so they show; and the wake lock shows as held exactly if somebody holds
it. -/
theorem snapshot_canonical (setup : Setup π) (moments : List Moment) :
    let state := after setup moments
    let pages := state.snapshot.sessions
    let panes := pages.flatMap (·.surfaces)
    (pages.Pairwise fun first second => first.session.raw < second.session.raw) ∧
    (∀ page ∈ pages, page.state ≠ .stopped ∧
      ∃ session, state.roster.session? page.session = some session ∧ page.Shows session) ∧
    (∀ key session, state.roster.session? key = some session →
      ∃ page ∈ pages, page.session = key ∧ page.Shows session) ∧
    (∀ key session surfaces page, state.roster.session? key = some session →
      surfaces.Perm session.surfaces → page ∈ pages → page.session = key →
      SessionSnapshot.ofSession { session with surfaces := surfaces } = page) ∧
    (panes.map (·.surface)).Nodup ∧
    (∀ handle, handle ∈ panes.map (·.surface) ↔
      ∃ surface, state.roster.surface? handle = some surface) ∧
    (∀ pane ∈ panes, pane.live = true ∧
      ∃ surface, state.roster.surface? pane.surface = some surface ∧ surface.live = true ∧
        pane.Shows surface) ∧
    (panes.filter (·.focused)).length ≤ 1 ∧
    (∀ handle other surface rival, state.roster.surface? handle = some surface →
      state.roster.surface? other = some rival → surface.focused = true → rival.focused = true →
      handle = other) ∧
    (state.snapshot.wakeLockEnabled = true ↔
      ∃ owner, state.wakeLock.isHeldBy owner = true) := by
  intro state pages panes
  have consistent : state.roster.Consistent := after_consistent setup moments
  have shown (page : SessionSnapshot) (member : page ∈ pages) :
      page.state ≠ .stopped ∧
        ∃ session, state.roster.session? page.session = some session ∧ page.Shows session := by
    obtain ⟨key, session, found, rfl⟩ := Roster.mem_snapshot_iff.1 member
    have sound := consistent.sound key session found
    refine ⟨sound.active, session, ?_, SessionSnapshot.shows_ofSession sound.distinct⟩
    exact (congrArg state.roster.session? sound.handle).trans found
  have known : state.FocusKnown := after_focusKnown setup moments
  refine ⟨consistent.ascending_snapshot, shown, ?_, ?_, consistent.nodup_panes, ?_, ?_,
    known.length_focused_le consistent, ?_, WakeLock.enabled_iff⟩
  · intro key session found
    have sound := consistent.sound key session found
    exact ⟨.ofSession session, Roster.mem_snapshot_iff.2 ⟨key, session, found, rfl⟩, sound.handle,
      SessionSnapshot.shows_ofSession sound.distinct⟩
  · rintro key session surfaces page found perm member rfl
    obtain ⟨_, _, held, shows⟩ := shown page member
    obtain rfl := Option.some.inj (found.symm.trans held)
    have distinct := (consistent.sound _ _ found).distinct
    have shuffled : (SessionSnapshot.ofSession { session with surfaces := surfaces }).Shows
        { session with surfaces := surfaces } :=
      SessionSnapshot.shows_ofSession ((perm.map _).nodup_iff.2 distinct)
    exact (shows.eq_of_perm shuffled perm).symm
  · intro handle
    rw [List.mem_map]
    constructor
    · rintro ⟨pane, member, rfl⟩
      obtain ⟨surface, found, _⟩ := consistent.mem_panes_iff.1 member
      exact ⟨surface, found⟩
    · rintro ⟨surface, found⟩
      have named := consistent.handle_of_surface? found
      refine ⟨.ofSurface surface, consistent.mem_panes_iff.2 ⟨surface, ?_, ?_⟩, named⟩
      · exact (congrArg state.roster.surface? named).trans found
      · exact SurfaceSnapshot.shows_iff.2 rfl
  · intro pane member
    obtain ⟨surface, found, shows⟩ := consistent.mem_panes_iff.1 member
    have live : surface.live = true := consistent.live_of_surface? found
    exact ⟨shows.live.trans live, surface, found, live, shows⟩
  · -- Both have the focus that is remembered.
    intro handle other surface rival found foundRival focused focusedRival
    have here := (known handle).2 ⟨surface, found, focused⟩
    have there := (known other).2 ⟨rival, foundRival, focusedRival⟩
    exact Option.some.inj (here.symm.trans there)

end Coordinator

end AppLifecycle
