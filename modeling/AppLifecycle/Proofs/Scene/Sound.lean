import Mathlib.Data.List.Nodup
import AppLifecycle.Proofs.Roster.Consistent
import AppLifecycle.Scene

/-!
# The roster that a scene stands for

A scene stands for the roster in which each number is replaced by the session or surface that it
stands for. As long as nothing is done to its objects but through the roster, a scene is sound:
sessions stand under their own handles, no two hold one surface, and none holds two surfaces of one
handle. Then what a step changes in the scene under one handle it changes in the roster under that
handle, and the rest of both stays as it is (`ChangesAt.roster_eq`).
-/

namespace AppLifecycle

namespace Scene

/-! ## The roster that a scene stands for -/

/-- The surfaces of some numbers. -/
def surfacesAt (scene : Scene) (numbers : List Nat) : List Surface :=
  numbers.filterMap (scene.surfaces[·]?)

/-- The handle of the surface of a number. -/
def handleAt (scene : Scene) (surface : Nat) : Option SurfaceHandle :=
  scene.surfaces[surface]?.map (·.handle)

/-- The session of a number, with the surfaces that it holds. -/
def sessionAt (scene : Scene) (number : Nat) : Session :=
  match scene.sessions[number]? with
  | some object => { object.body with surfaces := scene.surfacesAt object.held }
  | none => default

/-- The roster with sessions and surfaces in the place of their numbers. -/
def roster (scene : Scene) : Roster where
  sessions := scene.managed.mapValues scene.sessionAt
  owners := scene.owners
  registry := ⟨scene.registry.entries.mapValues fun number => (scene.sessionAt number).handle⟩

/-- A session of the roster holds a surface. -/
def Holds (scene : Scene) (key : SessionHandle) (surface : Nat) : Prop :=
  ∃ number object, scene.managed? key = some number ∧ scene.sessions[number]? = some object ∧
    surface ∈ object.held

/-- No session of the roster holds the surface. -/
def Free (scene : Scene) (surface : Nat) : Prop :=
  ∀ key, ¬ scene.Holds key surface

/-- How a session stands in the scene that the roster files under a handle. -/
structure Fits (scene : Scene) (key : SessionHandle) (object : SessionObject) : Prop where
  handle : object.body.handle = key
  /-- Its surfaces are held by number only. -/
  bare : object.body.surfaces = []
  known : ∀ surface ∈ object.held, ∃ handle, scene.handleAt surface = some handle
  distinct : (object.held.map scene.handleAt).Nodup

/-- A scene on whose objects nothing was done but through its roster. -/
structure Sound (scene : Scene) : Prop where
  fits : ∀ key number, scene.managed? key = some number →
    ∃ object, scene.sessions[number]? = some object ∧ scene.Fits key object
  apart : ∀ key other surface, scene.Holds key surface → scene.Holds other surface → key = other
  registered : ∀ key, scene.registry.entries.find? key = scene.managed? key

variable {α β : Type} {scene later : Scene} {object : SessionObject} {key other : SessionHandle}
  {number rival surface : Nat} {handle : SurfaceHandle}

theorem empty_sound : empty.Sound where
  fits := by simp [managed?, empty]
  apart := by simp [Holds, managed?, empty]
  registered := by simp [managed?, empty, Registry.empty]

theorem owners_roster : scene.roster.owners = scene.owners :=
  rfl

/-- The index is the same on both sides. -/
theorem roster_withOwners (owners : KeyMap SurfaceHandle SessionHandle) :
    ({ scene with owners := owners } : Scene).roster = { scene.roster with owners := owners } :=
  rfl

theorem roster_withSlots (slots : List (Option Nat)) :
    ({ scene with slots := slots } : Scene).roster = scene.roster :=
  rfl

theorem session?_roster : scene.roster.session? key = (scene.managed? key).map scene.sessionAt :=
  KeyMap.find?_mapValues ..

theorem session?_of_managed (filed : scene.managed? key = some number) :
    scene.roster.session? key = some (scene.sessionAt number) := by
  rw [session?_roster, filed, Option.map_some]

theorem session?_of_unmanaged (absent : scene.managed? key = none) :
    scene.roster.session? key = none := by
  rw [session?_roster, absent, Option.map_none]

theorem sessionAt_of_found (found : scene.sessions[number]? = some object) :
    scene.sessionAt number = { object.body with surfaces := scene.surfacesAt object.held } := by
  rw [sessionAt, found]

theorem surfacesAt_congr {numbers : List Nat}
    (same : ∀ surface ∈ numbers, later.surfaces[surface]? = scene.surfaces[surface]?) :
    later.surfacesAt numbers = scene.surfacesAt numbers :=
  List.filterMap_congr same

/-- A session is what it is by its object and by the surfaces that it holds. -/
theorem sessionAt_congr (objects : later.sessions[number]? = scene.sessions[number]?)
    (same : ∀ object, scene.sessions[number]? = some object → ∀ surface ∈ object.held,
      later.surfaces[surface]? = scene.surfaces[surface]?) :
    later.sessionAt number = scene.sessionAt number := by
  cases found : scene.sessions[number]? with
  | none => rw [sessionAt, sessionAt, objects, found]
  | some object =>
      rw [sessionAt_of_found found, sessionAt_of_found (objects.trans found),
        surfacesAt_congr (same object found)]

namespace Sound

variable (sound : scene.Sound)
include sound

theorem fits_of_found (filed : scene.managed? key = some number)
    (found : scene.sessions[number]? = some object) : scene.Fits key object := by
  obtain ⟨same, sameFound, fits⟩ := sound.fits key number filed
  cases found.symm.trans sameFound
  exact fits

theorem handle_sessionAt (found : scene.managed? key = some number) :
    (scene.sessionAt number).handle = key := by
  obtain ⟨object, objectFound, fits⟩ := sound.fits key number found
  rw [sessionAt_of_found objectFound]
  exact fits.handle

theorem key_unique (found : scene.managed? key = some number)
    (foundToo : scene.managed? other = some number) : key = other :=
  (sound.handle_sessionAt found).symm.trans (sound.handle_sessionAt foundToo)

theorem registry_roster (key : SessionHandle) :
    scene.roster.registry.entries.find? key = (scene.managed? key).map fun _ => key := by
  apply (KeyMap.find?_mapValues ..).trans
  rw [sound.registered]
  cases found : scene.managed? key with
  | none => rfl
  | some number => exact congrArg some (sound.handle_sessionAt found)

/-- The roster of a scene is known from what is looked up in the scene. -/
theorem roster_eq {roster : Roster}
    (sessions : ∀ key, (scene.managed? key).map scene.sessionAt = roster.session? key)
    (owners : scene.owners = roster.owners)
    (registry : ∀ key, roster.registry.entries.find? key = (scene.managed? key).map fun _ => key) :
    scene.roster = roster :=
  Roster.ext_find? (fun key => session?_roster.trans (sessions key)) owners
    fun key => (sound.registry_roster key).trans (registry key).symm

end Sound

/-! ## Surfaces by number -/

theorem handleAt_eq_some_iff :
    scene.handleAt surface = some handle ↔
      ∃ found, scene.surfaces[surface]? = some found ∧ found.handle = handle :=
  Option.map_eq_some_iff

private theorem any_named (handle : SurfaceHandle) (surface : Nat) :
    (scene.surfaces[surface]?.any fun found => decide (found.handle = handle)) =
      decide (scene.handleAt surface = some handle) := by
  rw [handleAt]
  cases scene.surfaces[surface]? <;> simp

theorem heldSurface?_eq (found : scene.sessions[number]? = some object) :
    scene.heldSurface? number handle =
      object.held.find? fun surface => decide (scene.handleAt surface = some handle) := by
  rw [heldSurface?, found, Option.bind_some, heldSurfaces, List.find?_filterMap]
  simp only [Option.any_map, any_named]
  cases held : object.held.find? fun surface => decide (scene.handleAt surface = some handle) with
  | none => rfl
  | some surface =>
      have named : scene.handleAt surface = some handle := by simpa using List.find?_some held
      obtain ⟨content, known, _⟩ := handleAt_eq_some_iff.1 named
      rw [Option.bind_some, known, Option.map_some, Option.map_some]

theorem surface?_sessionAt (found : scene.sessions[number]? = some object) :
    (scene.sessionAt number).surface? handle =
      (scene.heldSurface? number handle).bind (scene.surfaces[·]?) := by
  rw [sessionAt_of_found found, heldSurface?_eq found, Session.surface?, surfacesAt,
    List.find?_filterMap]
  simp only [any_named]

/-- The number of a surface leads to the surface that the session has of the handle. -/
theorem of_heldSurface? (found : scene.sessions[number]? = some object)
    (held : scene.heldSurface? number handle = some surface) :
    surface ∈ object.held ∧ ∃ content, scene.surfaces[surface]? = some content ∧
      content.handle = handle ∧ (scene.sessionAt number).surface? handle = some content := by
  have sought := held
  rw [heldSurface?_eq found] at sought
  have called : scene.handleAt surface = some handle := by simpa using List.find?_some sought
  obtain ⟨content, known, named⟩ := handleAt_eq_some_iff.1 called
  refine ⟨List.mem_of_find?_eq_some sought, content, known, named, ?_⟩
  rw [surface?_sessionAt found, held, Option.bind_some, known]

theorem heldSurface?_eq_none_iff (found : scene.sessions[number]? = some object) :
    scene.heldSurface? number handle = none ↔ (scene.sessionAt number).surface? handle = none := by
  cases held : scene.heldSurface? number handle with
  | none => simp [surface?_sessionAt found, held]
  | some surface =>
      obtain ⟨_, content, _, _, sought⟩ := of_heldSurface? found held
      simp [sought]

theorem surfaceHandles_sessionAt (found : scene.sessions[number]? = some object) :
    (scene.sessionAt number).surfaceHandles = object.held.filterMap scene.handleAt := by
  rw [sessionAt_of_found found, Session.surfaceHandles, surfacesAt, List.map_filterMap]
  rfl

namespace Fits

variable (fits : scene.Fits key object)
include fits

theorem nodup_held : object.held.Nodup :=
  fits.distinct.of_map

theorem handleAt_inj (member : surface ∈ object.held) (memberToo : rival ∈ object.held)
    (same : scene.handleAt surface = scene.handleAt rival) : surface = rival :=
  List.inj_on_of_nodup_map fits.distinct member memberToo same

/-- Letting go of a number is letting go of the handle that it stands for. -/
theorem surfacesAt_erase (member : surface ∈ object.held)
    (named : scene.handleAt surface = some handle) :
    scene.surfacesAt (object.held.erase surface) =
      (scene.surfacesAt object.held).filter fun content => content.handle ≠ handle := by
  rw [fits.nodup_held.erase_eq_filter, surfacesAt, surfacesAt, List.filterMap_filter,
    List.filter_filterMap]
  apply List.filterMap_congr
  intro rival memberToo
  cases known : scene.surfaces[rival]? with
  | none => simp
  | some content =>
      have called : scene.handleAt rival = some content.handle := by rw [handleAt, known]; rfl
      by_cases equal : rival = surface
      · subst equal
        cases named.symm.trans called
        simp [Option.filter]
      · have different : content.handle ≠ handle := by
          rintro rfl
          exact equal (fits.handleAt_inj memberToo member (called.trans named.symm))
        simp [Option.filter, equal, different]

end Fits

/-! ## Changing what stands under one handle -/

/-- What stands under a handle of the roster is the same later. -/
structure Keeps (scene later : Scene) (key : SessionHandle) : Prop where
  managed : later.managed? key = scene.managed? key
  objects : ∀ number, scene.managed? key = some number →
    later.sessions[number]? = scene.sessions[number]?
  surfaces : ∀ surface, scene.Holds key surface →
    later.surfaces[surface]? = scene.surfaces[surface]?

namespace Keeps

variable (keeps : scene.Keeps later key)
include keeps

theorem session : (later.managed? key).map later.sessionAt =
    (scene.managed? key).map scene.sessionAt := by
  rw [keeps.managed]
  cases filed : scene.managed? key with
  | none => rfl
  | some number =>
      apply congrArg some
      apply sessionAt_congr (keeps.objects number filed)
      intro object found surface member
      exact keeps.surfaces surface ⟨number, object, filed, found, member⟩

theorem sessionAt_eq (filed : scene.managed? key = some number) :
    later.sessionAt number = scene.sessionAt number := by
  have session := keeps.session
  rw [keeps.managed, filed] at session
  exact Option.some.inj session

theorem holds_iff : later.Holds key surface ↔ scene.Holds key surface := by
  rw [Holds, keeps.managed]
  constructor
  · rintro ⟨number, object, filed, found, member⟩
    exact ⟨number, object, filed, (keeps.objects number filed).symm.trans found, member⟩
  · rintro ⟨number, object, filed, found, member⟩
    exact ⟨number, object, filed, (keeps.objects number filed).trans found, member⟩

theorem fits (filed : scene.managed? key = some number)
    (found : scene.sessions[number]? = some object) (fits : scene.Fits key object) :
    later.Fits key object := by
  have same : ∀ surface ∈ object.held, later.handleAt surface = scene.handleAt surface := by
    intro surface member
    rw [handleAt, keeps.surfaces surface ⟨number, object, filed, found, member⟩, handleAt]
  constructor
  · exact fits.handle
  · exact fits.bare
  · intro surface member
    rw [same surface member]
    exact fits.known surface member
  · rw [List.map_congr_left same]
    exact fits.distinct

end Keeps

/-- Later something else may stand under one handle of the roster, which took nothing away from
another. -/
structure ChangesAt (scene later : Scene) (key : SessionHandle) : Prop where
  elsewhere : ∀ other, other ≠ key → scene.Keeps later other
  here : ∀ number, later.managed? key = some number →
    ∃ object, later.sessions[number]? = some object ∧ later.Fits key object ∧
      ∀ surface ∈ object.held, scene.Holds key surface ∨ scene.Free surface
  registered : ∀ other, later.registry.entries.find? other = later.managed? other

namespace ChangesAt

variable (sound : scene.Sound) (changes : scene.ChangesAt later key)
include sound changes

theorem apart_here (different : other ≠ key) (heldHere : later.Holds key surface) :
    ¬ later.Holds other surface := by
  intro heldThere
  have formerly := (changes.elsewhere other different).holds_iff.1 heldThere
  obtain ⟨number, object, filed, found, member⟩ := heldHere
  obtain ⟨same, sameFound, _, origin⟩ := changes.here number filed
  cases found.symm.trans sameFound
  rcases origin surface member with held | free
  · exact different (sound.apart other key surface formerly held)
  · exact free other formerly

theorem keeps_sound : later.Sound where
  fits other number filed := by
    by_cases equal : other = key
    · subst equal
      obtain ⟨object, found, fits, _⟩ := changes.here number filed
      exact ⟨object, found, fits⟩
    · have keeps := changes.elsewhere other equal
      rw [keeps.managed] at filed
      obtain ⟨object, found, fits⟩ := sound.fits other number filed
      exact ⟨object, (keeps.objects number filed).trans found, keeps.fits filed found fits⟩
  apart first second surface heldFirst heldSecond := by
    by_cases here : first = key
    · subst here
      by_contra different
      exact apart_here sound changes (Ne.symm different) heldFirst heldSecond
    · by_cases there : second = key
      · subst there
        exact absurd heldFirst (apart_here sound changes here heldSecond)
      · exact sound.apart first second surface
          ((changes.elsewhere first here).holds_iff.1 heldFirst)
          ((changes.elsewhere second there).holds_iff.1 heldSecond)
  registered := changes.registered

/-- The later roster is told apart from the one before under that one handle. -/
theorem roster_eq {roster : Roster} (owners : later.owners = roster.owners)
    (here : (later.managed? key).map later.sessionAt = roster.session? key)
    (elsewhere : ∀ other, other ≠ key → roster.session? other = scene.roster.session? other)
    (registry : ∀ other, roster.registry.entries.find? other =
      (later.managed? other).map fun _ => other) :
    later.roster = roster := by
  apply (keeps_sound sound changes).roster_eq _ owners registry
  intro other
  by_cases equal : other = key
  · rw [equal, here]
  · rw [elsewhere other equal, session?_roster, (changes.elsewhere other equal).session]

end ChangesAt

/-! ## Changing one session -/

/-- What a session is and holds is all that changes, and what others hold stays as it is. -/
structure Alters (scene later : Scene) (key : SessionHandle) (number : Nat) : Prop where
  filed : scene.managed? key = some number
  managed : later.managed = scene.managed
  registry : later.registry = scene.registry
  objects : ∀ rival, rival ≠ number → later.sessions[rival]? = scene.sessions[rival]?
  surfaces : ∀ other surface, other ≠ key → scene.Holds other surface →
    later.surfaces[surface]? = scene.surfaces[surface]?
  here : ∃ object, later.sessions[number]? = some object ∧ later.Fits key object ∧
    ∀ surface ∈ object.held, scene.Holds key surface ∨ scene.Free surface

namespace Alters

variable (sound : scene.Sound) (alters : scene.Alters later key number)
include sound alters

theorem changesAt : scene.ChangesAt later key where
  elsewhere other different := by
    constructor
    · rw [managed?, alters.managed, managed?]
    · intro rival filed
      apply alters.objects
      rintro rfl
      exact different (sound.key_unique filed alters.filed)
    · exact fun surface => alters.surfaces other surface different
  here rival filed := by
    rw [managed?, alters.managed] at filed
    cases filed.symm.trans alters.filed
    exact alters.here
  registered other := by
    rw [alters.registry, sound.registered, managed?, managed?, alters.managed]

theorem keeps_sound : later.Sound :=
  (alters.changesAt sound).keeps_sound sound

/-- In the roster the session is replaced. -/
theorem roster_eq : later.roster =
    { scene.roster.put key (later.sessionAt number) with owners := later.owners } := by
  have managed : ∀ other, later.managed? other = scene.managed? other := by
    intro other
    rw [managed?, alters.managed, managed?]
  apply (alters.changesAt sound).roster_eq sound rfl
  · rw [managed, alters.filed]
    exact (Roster.session?_put.trans (if_pos rfl)).symm
  · intro other different
    exact Roster.session?_put.trans (if_neg different)
  · intro other
    rw [managed]
    exact sound.registry_roster other

end Alters

/-! ## Changing what no session of the roster has -/

namespace Sound

variable (sound : scene.Sound)
include sound

theorem of_keeps (keeps : ∀ key, scene.Keeps later key)
    (registry : later.registry = scene.registry) : later.Sound where
  fits key number filed := by
    rw [(keeps key).managed] at filed
    obtain ⟨object, found, fits⟩ := sound.fits key number filed
    exact ⟨object, ((keeps key).objects number filed).trans found,
      (keeps key).fits filed found fits⟩
  apart key other surface held heldToo :=
    sound.apart key other surface ((keeps key).holds_iff.1 held) ((keeps other).holds_iff.1 heldToo)
  registered key := by rw [registry, sound.registered, (keeps key).managed]

theorem roster_of_keeps (keeps : ∀ key, scene.Keeps later key)
    (registry : later.registry = scene.registry) (owners : later.owners = scene.owners) :
    later.roster = scene.roster := by
  apply (sound.of_keeps keeps registry).roster_eq _ owners
  · intro key
    rw [sound.registry_roster, (keeps key).managed]
  · intro key
    rw [session?_roster, (keeps key).session]

theorem withOwners (owners : KeyMap SurfaceHandle SessionHandle) :
    ({ scene with owners := owners } : Scene).Sound :=
  sound.of_keeps (fun _ => ⟨rfl, fun _ _ => rfl, fun _ _ => rfl⟩) rfl

/-- What the outside holds does not matter to the roster. -/
theorem withSlots (slots : List (Option Nat)) : ({ scene with slots := slots } : Scene).Sound :=
  sound.of_keeps (fun _ => ⟨rfl, fun _ _ => rfl, fun _ _ => rfl⟩) rfl

end Sound

/-! ## Looking up -/

theorem isStopped_eq (found : scene.sessions[number]? = some object) :
    scene.isStopped number = (scene.sessionAt number).state.isTerminal := by
  rw [isStopped, found, sessionAt_of_found found]
  rfl

theorem ownerOf?_roster :
    scene.roster.ownerOf? handle = (scene.ownerOf? handle).map scene.sessionAt := by
  rw [Roster.ownerOf?, ownerOf?, Option.map_bind]
  exact congrArg _ (funext fun key => session?_roster)

/-- Behind the index stands a session of the roster. -/
theorem Sound.of_ownerOf? (sound : scene.Sound) (owned : scene.ownerOf? handle = some number) :
    ∃ key object, scene.owners.find? handle = some key ∧ scene.managed? key = some number ∧
      scene.sessions[number]? = some object ∧ scene.Fits key object := by
  obtain ⟨key, indexed, filed⟩ := Option.bind_eq_some_iff.1 owned
  obtain ⟨object, found, fits⟩ := sound.fits key number filed
  exact ⟨key, object, indexed, filed, found, fits⟩

theorem Sound.surface?_roster (sound : scene.Sound) :
    scene.roster.surface? handle = (scene.surface? handle).bind (scene.surfaces[·]?) := by
  rw [Roster.surface?, ownerOf?_roster, surface?]
  cases owned : scene.ownerOf? handle with
  | none => rfl
  | some number =>
      obtain ⟨_, _, _, _, found, _⟩ := sound.of_ownerOf? owned
      exact surface?_sessionAt found

/-! ## Steps that the roster sees -/

/-- A step of a scene is the step of its roster, the answer read in the scene afterwards. -/
structure Realizes (step : Step Scene α) (plain : Step Roster β) (read : Scene → α → β) :
    Prop where
  sound : step.state.Sound
  roster : step.state.roster = plain.state
  answer : read step.state step.answer = plain.answer
  effects : step.effects = plain.effects

theorem realizes_quiet (sound : scene.Sound) {answer : α} {plain : β} {read : Scene → α → β}
    (same : read scene answer = plain) :
    Realizes (.quiet scene answer) (.quiet scene.roster plain) read :=
  ⟨sound, rfl, same, rfl⟩

end Scene

end AppLifecycle
