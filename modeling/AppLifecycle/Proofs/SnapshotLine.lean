import Mathlib.Data.List.Nodup
import AppLifecycle.Command.Run
import AppLifecycle.Proofs.Coordinator.Snapshot
import AppLifecycle.Proofs.Json.Writing

/-!
# The line that shows a state

A state is printed on one line: the managed sessions and the surfaces that each of them holds,
both in strictly ascending order of their handles, and whether anybody holds the wake lock. All
members of an object stand in the order of their names, and there is no space between tokens
(`snapshotLine_snapshot`).
-/

namespace AppLifecycle

/-! ## What is written -/

/-- What is written of a surface. -/
def Surface.written (surface : Surface) : Json :=
  .object
    [("chrome", .string surface.chrome.name),
      ("firstFrameDrawn", .bool surface.firstFrameDrawn),
      ("focused", .bool surface.focused),
      ("frameDropperRunning", .bool surface.dropperRunning),
      ("live", .bool surface.live),
      ("persistentId", .string surface.persistentId.text),
      ("presentation", .string surface.presentation.name),
      ("surface", .number surface.handle.raw.toNat),
      ("title", .string surface.title)]

/-- What is written of a session, given its surfaces in order. -/
def Session.written (session : Session) (surfaces : List Surface) : Json :=
  .object
    [("appId", .string session.appId),
      ("pid", .number session.pid.toNat),
      ("session", .number session.handle.raw.toNat),
      ("state", .string session.state.name),
      ("surfaces", .array (surfaces.map (·.written)))]

/-- What is written of sessions in order, each with its surfaces in order, and of the wake lock. -/
def writtenPages (pages : List (Session × List Surface)) (awake : Bool) : Json :=
  .object
    [("snapshot",
      .object
        [("sessions", .array (pages.map fun page => page.1.written page.2)),
          ("wakelockEnabled", .bool awake)])]

/-- The sessions of a roster and the surfaces that they hold, in strictly ascending order. -/
structure Roster.Lists (roster : Roster) (pages : List (Session × List Surface)) : Prop where
  managed : ∀ key session, roster.session? key = some session ↔
    session.handle = key ∧ ∃ surfaces, (session, surfaces) ∈ pages
  held : ∀ page ∈ pages, page.2.Perm page.1.surfaces
  sessionsAscending : pages.Pairwise fun first second => first.1.handle.raw < second.1.handle.raw
  surfacesAscending : ∀ page ∈ pages,
    page.2.Pairwise fun first second => first.handle.raw < second.handle.raw

/-! ## Members in the order of their names -/

namespace Json

theorem sortItems_map {α : Type} (image : α → Json) (items : List α) :
    sortItems (items.map image) = items.map fun item => (image item).sortKeys := by
  induction items with
  | nil => rfl
  | cons item rest ih => rw [List.map_cons, List.map_cons, sortItems, ih]

theorem length_sortMembers (members : List (String × Json)) :
    (sortMembers members).length = members.length := by
  induction members with
  | nil => rfl
  | cons entry rest ih => rw [sortMembers, List.length_cons, List.length_cons, ih]

/-- The order in which members are sorted. -/
def nameLe (first second : String × Json) : Bool :=
  decide (first.1 ≤ second.1)

theorem nameLe_trans (first second third : String × Json) (left : nameLe first second = true)
    (right : nameLe second third = true) : nameLe first third = true := by
  simp only [nameLe, decide_eq_true_eq] at *
  exact String.le_trans left right

theorem nameLe_total (first second : String × Json) :
    (nameLe first second || nameLe second first) = true := by
  simp only [nameLe, Bool.or_eq_true, decide_eq_true_eq]
  exact String.le_total ..

/-- Sorting members of different names comes to the one list of them in the order of the names. -/
theorem sortKeys_object {members sorted : List (String × Json)}
    (ascending : (sorted.map (·.1)).Pairwise (· < ·)) (known : sorted ⊆ sortMembers members)
    (all : members.length ≤ sorted.length) : (object members).sortKeys = object sorted := by
  have distinct : (sorted.map (·.1)).Nodup := ascending.imp String.ne_of_lt
  have perm : sorted.Perm (sortMembers members) :=
    (List.subperm_of_subset distinct.of_map known).perm_of_length_le
      (by rwa [length_sortMembers])
  have ordered : sorted.Pairwise fun first second => nameLe first second = true :=
    (List.pairwise_map.1 ascending).imp fun before =>
      decide_eq_true (String.not_lt.1 (String.lt_asymm before))
  have same : ((sortMembers members).mergeSort nameLe).Perm sorted :=
    (List.mergeSort_perm _ _).trans perm.symm
  rw [sortKeys]
  apply congrArg object
  refine same.eq_of_pairwise ?_ (List.pairwise_mergeSort nameLe_trans nameLe_total _) ordered
  -- No two members have one name.
  intro first second member otherMember le ge
  have level := String.le_antisymm (of_decide_eq_true le) (of_decide_eq_true ge)
  exact List.inj_on_of_nodup_map distinct (same.mem_iff.1 member) otherMember level

end Json

/-! ## Sorted documents -/

theorem SurfaceSnapshot.sortKeys_toJson (surface : Surface) :
    (ofSurface surface).toJson.sortKeys = surface.written := by
  apply Json.sortKeys_object
  · simp only [List.map_cons, List.map_nil]
    decide
  · simp [Json.sortMembers, Json.sortKeys, ofSurface, SurfaceHandle.toJson, SurfaceId.toJson,
      ChromeLevel.toJson, PresentationState.toJson]
  · exact Nat.le_refl 9

/-- The order of the handles of surfaces. -/
def Surface.handleLe (first second : Surface) : Bool :=
  first.handle.raw ≤ second.handle.raw

/-- A session with the surfaces that it holds, in the order of their handles. -/
def Session.page (session : Session) : Session × List Surface :=
  (session, session.surfaces.mergeSort Surface.handleLe)

theorem Session.panes_page (session : Session) :
    (SessionSnapshot.ofSession session).surfaces = session.page.2.map .ofSurface := by
  apply Eq.symm
  apply List.map_mergeSort
  intro first _ second _
  rfl

theorem SessionSnapshot.sortKeys_toJson (session : Session) :
    (ofSession session).toJson.sortKeys = session.written session.page.2 := by
  have panes : Json.sortItems ((ofSession session).surfaces.map (·.toJson)) =
      session.page.2.map (·.written) := by
    rw [Json.sortItems_map, session.panes_page, List.map_map]
    simp only [Function.comp_def, SurfaceSnapshot.sortKeys_toJson]
  apply Json.sortKeys_object
  · simp only [List.map_cons, List.map_nil]
    decide
  · simp only [Json.sortMembers, Json.sortKeys, SessionHandle.toJson, SessionState.toJson, panes]
    simp [ofSession, ofParts]
  · exact Nat.le_refl 5

/-! ## States -/

theorem Roster.Consistent.lists_pages {roster : Roster} (consistent : roster.Consistent) :
    roster.Lists (roster.sessions.values.map (·.page)) where
  managed key session := by
    constructor
    · intro found
      have listed : session ∈ roster.sessions.values := KeyMap.mem_values_iff.2 ⟨key, found⟩
      exact ⟨(consistent.sound key session found).handle, _, List.mem_map_of_mem listed⟩
    · rintro ⟨named, surfaces, member⟩
      obtain ⟨other, listed, same⟩ := List.mem_map.1 member
      obtain rfl : other = session := congrArg Prod.fst same
      obtain ⟨filed, found⟩ := KeyMap.mem_values_iff.1 listed
      have sound : other.handle = filed := (consistent.sound filed other found).handle
      rw [← named, sound]
      exact found
  held page member := by
    obtain ⟨session, _, rfl⟩ := List.mem_map.1 member
    exact List.mergeSort_perm ..
  sessionsAscending := by
    have pages : (roster.snapshot false).sessions.Pairwise fun first second =>
        first.session.raw < second.session.raw := consistent.ascending_snapshot
    have sessions := List.pairwise_map.1 pages
    exact List.pairwise_map.2 sessions
  surfacesAscending page member := by
    obtain ⟨session, listed, rfl⟩ := List.mem_map.1 member
    obtain ⟨key, found⟩ := KeyMap.mem_values_iff.1 listed
    have distinct := (consistent.sound key session found).distinct
    have panes := (SessionSnapshot.shows_ofSession distinct).ascending
    rw [session.panes_page] at panes
    have surfaces := List.pairwise_map.1 panes
    exact surfaces

theorem Roster.sortKeys_snapshot (roster : Roster) (awake : Bool) :
    (Json.object [("snapshot", (roster.snapshot awake).toJson)]).sortKeys =
      writtenPages (roster.sessions.values.map (·.page)) awake := by
  have pages : Json.sortItems ((roster.snapshot awake).sessions.map (·.toJson)) =
      (roster.sessions.values.map (·.page)).map fun page => page.1.written page.2 := by
    rw [Json.sortItems_map, snapshot, List.map_map, List.map_map]
    simp only [Function.comp_def, SessionSnapshot.sortKeys_toJson]
    rfl
  have shown : (roster.snapshot awake).toJson.sortKeys =
      .object
        [("sessions",
            .array ((roster.sessions.values.map (·.page)).map fun page => page.1.written page.2)),
          ("wakelockEnabled", .bool awake)] := by
    apply Json.sortKeys_object
    · simp only [List.map_cons, List.map_nil]
      decide
    · simp only [Json.sortMembers, Json.sortKeys, pages]
      simp [snapshot]
    · exact Nat.le_refl 2
  apply Json.sortKeys_object
  · simp only [List.map_cons, List.map_nil]
    decide
  · simp only [Json.sortMembers, shown]
    simp
  · exact Nat.le_refl 1

/-- The line on which a state is printed, in whose roster nothing is amiss: it is written without
space, and spells the sessions and surfaces in order and whether the wake lock is held. -/
theorem snapshotLine_snapshot {π : Type} {state : Coordinator π}
    (consistent : state.roster.Consistent) :
    ∃ pages awake, state.roster.Lists pages ∧
      (awake = true ↔ ∃ owner, state.wakeLock.isHeldBy owner = true) ∧
      (Command.snapshotLine state.snapshot).toList = (writtenPages pages awake).compactChars ∧
      Json.Spells (writtenPages pages awake).datum (writtenPages pages awake).compactChars := by
  refine ⟨_, state.wakeLock.enabled, consistent.lists_pages, WakeLock.enabled_iff, ?_,
    Json.spells_compact rfl⟩
  rw [Command.snapshotLine, Coordinator.snapshot, Roster.sortKeys_snapshot, Json.compact,
    String.toList_ofList]

/-- A session that has just come up, without surfaces. -/
example :
    (writtenPages [(.create ⟨1⟩ 7 "app", [])] false).compact =
      "\x7b\"snapshot\":\x7b\"sessions\":[\x7b\"appId\":\"app\",\"pid\":7,\"session\":1," ++
        "\"state\":\"starting\",\"surfaces\":[]\x7d],\"wakelockEnabled\":false\x7d\x7d" := by
  decide +kernel

end AppLifecycle
