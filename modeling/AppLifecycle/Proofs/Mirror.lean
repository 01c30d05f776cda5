import AppLifecycle.Proofs.KeyMap
import AppLifecycle.Proofs.Surface
import AppLifecycle.Session

/-!
# What a shell can tell from the notifications

A shell that never looks at a snapshot keeps a `Mirror`: it starts from nothing and notes each
notification as it comes. Every touch of a live surface is told in full: a mirror that shows the
surface before shows it afterwards, and nothing else changes in it.
-/

namespace AppLifecycle

/-- What notifications tell of a session. -/
structure Tile where
  appId : String
  state : SessionState
  deriving DecidableEq

/-- What notifications tell of a surface, its title apart. -/
structure Pane where
  firstFrameDrawn : Bool
  dropperRunning : Bool
  presentation : PresentationState
  focused : Bool
  deriving DecidableEq

/-- The picture that a shell draws from the notifications. -/
structure Mirror where
  sessions : KeyMap SessionHandle Tile
  surfaces : KeyMap SurfaceHandle Pane
  /-- The titles given to surfaces since they came up. -/
  titles : KeyMap SurfaceHandle String
  awake : Bool
  deriving DecidableEq

namespace Tile

/-- What is to be seen of a session. -/
def ofSession (session : Session) : Tile :=
  ⟨session.appId, session.state⟩

end Tile

namespace Pane

/-- A surface that has just come up: its dropper runs, and nothing is drawn. -/
def fresh : Pane :=
  ⟨false, true, .restored, false⟩

/-- What is to be seen of a surface. -/
def ofSurface (surface : Surface) : Pane :=
  ⟨surface.firstFrameDrawn, surface.dropperRunning, surface.presentation, surface.focused⟩

end Pane

namespace Mirror

variable {mirror : Mirror} {handle : SurfaceHandle} {surface : Surface}

/-- The picture before the first notification. -/
def blank : Mirror where
  sessions := ∅
  surfaces := ∅
  titles := ∅
  awake := false

/-- Changes what is shown of a surface. -/
def repaint (mirror : Mirror) (handle : SurfaceHandle) (change : Pane → Pane) : Mirror :=
  { mirror with surfaces := mirror.surfaces.modify handle change }

/-- Takes a notification in. -/
def note (mirror : Mirror) : ShellNotification → Mirror
  | .sessionAdded key appId =>
      { mirror with sessions := mirror.sessions.insert key ⟨appId, .starting⟩ }
  | .sessionRemoved key => { mirror with sessions := mirror.sessions.erase key }
  | .sessionStateChanged key state =>
      { mirror with
        sessions := mirror.sessions.modify key fun tile => { tile with state := state } }
  | .surfaceAdded handle _ =>
      { mirror with
        surfaces := mirror.surfaces.insert handle .fresh
        titles := mirror.titles.erase handle }
  | .surfaceLiveChanged handle live =>
      if live then mirror
      else
        { mirror with
          surfaces := mirror.surfaces.erase handle
          titles := mirror.titles.erase handle }
  | .surfaceFirstFrameDrawn handle =>
      mirror.repaint handle fun pane => { pane with firstFrameDrawn := true }
  | .surfaceFrameDropperChanged handle running =>
      mirror.repaint handle fun pane => { pane with dropperRunning := running }
  | .surfaceFocusChanged handle focused =>
      mirror.repaint handle fun pane => { pane with focused := focused }
  | .surfacePresentationChanged handle presentation =>
      mirror.repaint handle fun pane => { pane with presentation := presentation }
  | .surfaceTitleChanged handle title =>
      { mirror with titles := mirror.titles.insert handle title }
  | .wakeLockEnabledChanged enabled => { mirror with awake := enabled }

/-- Takes notifications in, one after the other. -/
def replay (notifications : List ShellNotification) (mirror : Mirror) : Mirror :=
  notifications.foldl note mirror

/-- Takes in what notifications are among some effects. -/
def read (effects : List Effect) (mirror : Mirror) : Mirror :=
  mirror.replay (Effect.notifications effects)

@[simp]
theorem read_nil : mirror.read [] = mirror :=
  rfl

@[simp]
theorem read_notify (notification : ShellNotification) (rest : List Effect) :
    mirror.read (.notify notification :: rest) = (mirror.note notification).read rest :=
  rfl

theorem read_append (first second : List Effect) :
    mirror.read (first ++ second) = (mirror.read first).read second := by
  rw [read, Effect.notifications_append, replay, List.foldl_append]
  rfl

/-! ## One surface -/

/-- The mirror shows a surface as it is, and if it knows a title, then the right one. -/
structure Shows (mirror : Mirror) (surface : Surface) : Prop where
  pane : mirror.surfaces.find? surface.handle = some (.ofSurface surface)
  title : ∀ title, mirror.titles.find? surface.handle = some title → title = surface.title

/-- The mirrors differ in one surface at most. -/
structure SameBut (handle : SurfaceHandle) (former latter : Mirror) : Prop where
  sessions : latter.sessions = former.sessions
  awake : latter.awake = former.awake
  surfaces : ∀ other, other ≠ handle → latter.surfaces.find? other = former.surfaces.find? other
  titles : ∀ other, other ≠ handle → latter.titles.find? other = former.titles.find? other

theorem SameBut.refl (mirror : Mirror) : SameBut handle mirror mirror :=
  ⟨rfl, rfl, fun _ _ => rfl, fun _ _ => rfl⟩

theorem SameBut.trans {first second third : Mirror} (left : SameBut handle first second)
    (right : SameBut handle second third) : SameBut handle first third where
  sessions := right.sessions.trans left.sessions
  awake := right.awake.trans left.awake
  surfaces other different := (right.surfaces other different).trans (left.surfaces other different)
  titles other different := (right.titles other different).trans (left.titles other different)

theorem repaint_sameBut (change : Pane → Pane) :
    SameBut handle mirror (mirror.repaint handle change) where
  sessions := rfl
  awake := rfl
  surfaces other different := by
    rw [repaint, KeyMap.find?_modify, if_neg different]
  titles _ _ := rfl

theorem shows_repaint (shown : mirror.Shows surface) {change : Pane → Pane} {latter : Surface}
    (same : latter.handle = surface.handle) (title : latter.title = surface.title)
    (changed : change (.ofSurface surface) = .ofSurface latter) :
    (mirror.repaint surface.handle change).Shows latter where
  pane := by
    rw [same, repaint, KeyMap.find?_modify, if_pos rfl, shown.pane, Option.map_some, changed]
  title known knownIs := by
    rw [title]
    exact shown.title known (same ▸ knownIs)

/-- Nothing is told because nothing that shows has changed. -/
theorem Shows.unchanged (shown : mirror.Shows surface) {latter : Surface}
    (same : latter.handle = surface.handle) (title : latter.title = surface.title)
    (pane : Pane.ofSurface latter = .ofSurface surface) : mirror.Shows latter where
  pane := by rw [same, pane, shown.pane]
  title known knownIs := by
    rw [title]
    exact shown.title known (same ▸ knownIs)

/-! ## Surfaces that are gone -/

/-- Some surfaces have vanished from the mirror, and nothing else has changed in it. -/
structure Loses (handles : List SurfaceHandle) (former latter : Mirror) : Prop where
  sessions : latter.sessions = former.sessions
  awake : latter.awake = former.awake
  surfaces : ∀ other, latter.surfaces.find? other =
    if other ∈ handles then none else former.surfaces.find? other
  titles : ∀ other, latter.titles.find? other =
    if other ∈ handles then none else former.titles.find? other

theorem Loses.refl (mirror : Mirror) : Loses [] mirror mirror :=
  ⟨rfl, rfl, fun _ => by simp, fun _ => by simp⟩

theorem Loses.cons {first second third : Mirror} {handles : List SurfaceHandle}
    (left : Loses [handle] first second) (right : Loses handles second third) :
    Loses (handle :: handles) first third where
  sessions := right.sessions.trans left.sessions
  awake := right.awake.trans left.awake
  surfaces other := by
    rw [right.surfaces, left.surfaces]
    by_cases equal : other = handle <;> simp [equal]
  titles other := by
    rw [right.titles, left.titles]
    by_cases equal : other = handle <;> simp [equal]

/-- The release of a live surface makes it vanish. -/
theorem loses_markReleased (live : surface.live = true) :
    Loses [surface.handle] mirror (mirror.read surface.markReleased.effects) := by
  simp only [Surface.markReleased, live, if_true]
  cases surface.focused with
  | false =>
      constructor
      · rfl
      · rfl
      · intro other
        simpa [note] using KeyMap.find?_erase mirror.surfaces surface.handle other
      · intro other
        simpa [note] using KeyMap.find?_erase mirror.titles surface.handle other
  | true =>
      constructor
      · rfl
      · rfl
      · intro other
        simp only [if_true, List.singleton_append, read_notify, read_nil, note, repaint,
          Bool.false_eq_true, if_false, KeyMap.find?_erase, KeyMap.find?_modify,
          List.mem_singleton]
        split <;> rfl
      · intro other
        simpa [note, repaint] using KeyMap.find?_erase mirror.titles surface.handle other

/-- The release of live surfaces, one after the other, makes them vanish. -/
theorem loses_released {surfaces : List Surface}
    (live : ∀ surface ∈ surfaces, surface.live = true) (mirror : Mirror) :
    Loses (surfaces.map (·.handle)) mirror
      (mirror.read (surfaces.flatMap fun surface => surface.markReleased.effects)) := by
  induction surfaces generalizing mirror with
  | nil => exact .refl mirror
  | cons first rest ih =>
      rw [List.flatMap_cons, read_append]
      exact (loses_markReleased (live first (List.mem_cons_self ..))).cons
        (ih (fun surface member => live surface (List.mem_cons_of_mem _ member)) _)

end Mirror

/-! ## Touches -/

namespace Surface

variable {α β : Type}

/-- A step of a live surface of which a mirror misses nothing. -/
def Told (act : Surface → Step Surface α) : Prop :=
  ∀ (surface : Surface) (mirror : Mirror), surface.live = true → mirror.Shows surface →
    (mirror.read (act surface).effects).Shows (act surface).state ∧
      Mirror.SameBut surface.handle mirror (mirror.read (act surface).effects)

theorem Told.andThen {first : Surface → Step Surface α} {second : Surface → Step Surface β}
    (gentle : Gentle first) (told : Told first) (toldNext : Told second) :
    Told fun surface => (first surface).andThen fun _ next => second next := by
  intro surface mirror live shown
  rcases told surface mirror live shown with ⟨shownNext, same⟩
  rcases toldNext (first surface).state _ ((gentle surface).live.trans live) shownNext with
    ⟨shownLast, sameNext⟩
  simp only [Step.andThen, Mirror.read_append]
  rw [(gentle surface).handle] at sameNext
  exact ⟨shownLast, same.trans sameNext⟩

end Surface

namespace Touch

/-- Every touch is told. -/
theorem act_told (touch : Touch) : Surface.Told touch.act := by
  intro surface mirror live shown
  cases touch with
  | rename title =>
      simp only [act, Surface.setTitle, Step.answering, live, Bool.true_and]
      split
      · constructor
        · constructor
          · exact shown.pane
          · intro known knownIs
            simpa [Surface.changed, Mirror.note, KeyMap.find?_insert, eq_comm] using knownIs
        · constructor
          · rfl
          · rfl
          · exact fun _ _ => rfl
          · intro other different
            simp [Surface.changed, Mirror.note, KeyMap.find?_insert, different]
      · exact ⟨shown, .refl mirror⟩
  | present presentation =>
      simp only [act, Surface.requestPresentation, Step.answering, live, Bool.true_and]
      split
      · exact ⟨Mirror.shows_repaint shown rfl rfl rfl, Mirror.repaint_sameBut _⟩
      · exact ⟨shown, .refl mirror⟩
  | focus focused =>
      simp only [act, Surface.setFocused, Step.answering, live, Bool.true_and]
      split
      · exact ⟨Mirror.shows_repaint shown rfl rfl rfl, Mirror.repaint_sameBut _⟩
      · exact ⟨shown, .refl mirror⟩
  | startDropper =>
      simp only [act, Surface.startFrameDropper, Step.answering, live, Bool.true_and]
      split
      · exact ⟨Mirror.shows_repaint shown rfl rfl rfl, Mirror.repaint_sameBut _⟩
      · exact ⟨shown, .refl mirror⟩
  | stopDropper =>
      simp only [act, Surface.stopFrameDropper, Step.answering, live, Bool.true_and]
      split
      · exact ⟨Mirror.shows_repaint shown rfl rfl rfl, Mirror.repaint_sameBut _⟩
      · exact ⟨shown, .refl mirror⟩
  | render =>
      simp only [act, Surface.render, Step.answering, live, if_true]
      split
      · exact ⟨shown, .refl mirror⟩
      · split
        · rename_i drawn
          constructor
          · exact shown.unchanged rfl rfl (by simp [Pane.ofSurface, drawn])
          · exact .refl mirror
        · exact ⟨Mirror.shows_repaint shown rfl rfl rfl, Mirror.repaint_sameBut _⟩
  | frameReady =>
      simp only [act, Surface.frameReady, Step.quiet, live, if_true]
      constructor
      · apply shown.unchanged <;> split <;> rfl
      · exact .refl mirror

end Touch

end AppLifecycle
