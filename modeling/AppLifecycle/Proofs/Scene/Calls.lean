import AppLifecycle.Proofs.Scene.Sessions

/-!
# A scene over its life

A scene that nobody touches but through its roster does as the roster does: each call gets the same
answer and tells the shell the same, and afterwards everything that can be looked up or shown is the
same (`run_like_roster`). Holding on to sessions makes no difference: the registry has no entry left
that would lead to one that has ended.
-/

namespace AppLifecycle

namespace Scene

variable {scene : Scene} {object : SessionObject} {key : SessionHandle} {number : Nat}

/-! ## Looking up by the registry, and the picture -/

/-- What is managed is alive. -/
theorem resolve?_of_managed (filed : scene.managed? key = some number)
    (found : scene.sessions[number]? = some object) :
    scene.resolve? number = some (number, object) := by
  have listed : number ∈ scene.managed.values := KeyMap.mem_values_iff.2 ⟨key, filed⟩
  have alive : scene.isAlive number = true := by
    rw [isAlive, List.contains_iff_mem.2 listed, Bool.true_or]
  rw [resolve?, if_pos alive, found, Option.map_some]

namespace Sound

variable (sound : scene.Sound)
include sound

/-- The registry finds what is managed. -/
theorem registry_find?_of_managed (filed : scene.managed? key = some number)
    (found : scene.sessions[number]? = some object) :
    scene.registry.find? scene.resolve? key = some (number, object) := by
  rw [Registry.find?, sound.registered, filed, Option.bind_some, resolve?_of_managed filed found]

theorem registry_find?_of_unmanaged (absent : scene.managed? key = none) :
    scene.registry.find? scene.resolve? key = none := by
  rw [Registry.find?, sound.registered, absent, Option.bind_none]

theorem registry_find?_roster (key : SessionHandle) :
    scene.roster.registry.find? scene.roster.session? key = scene.roster.session? key := by
  rw [Registry.find?, sound.registry_roster]
  cases filed : scene.managed? key with
  | none => exact (session?_of_unmanaged filed).symm
  | some number => rfl

theorem findSession?_roster :
    scene.roster.findSession? key = (scene.find? key).map scene.sessionAt := by
  rw [Roster.findSession?, sound.registry_find?_roster, find?]
  cases filed : scene.managed? key with
  | none => rw [session?_of_unmanaged filed, sound.registry_find?_of_unmanaged filed]; rfl
  | some number =>
      obtain ⟨object, found, _⟩ := sound.fits key number filed
      rw [session?_of_managed filed, sound.registry_find?_of_managed filed found]
      rfl

/-- Whichever way a search goes, it goes the same way on both sides. -/
theorem findByPid?_roster (pid : UInt32) (walk : Registry.Walk) :
    scene.roster.findByPid? pid walk = (scene.findByPid? pid walk).map scene.sessionAt := by
  have keys : scene.roster.registry.entries.keys = scene.registry.entries.keys := by
    simp [roster, KeyMap.keys]
  rw [Roster.findByPid?, findByPid?, Option.map_map, Registry.findWhere?, Registry.findWhere?, keys,
    List.map_findSome?]
  congr 1
  funext key
  rw [sound.registry_find?_roster, Function.comp_apply]
  cases filed : scene.managed? key with
  | none => rw [session?_of_unmanaged filed, sound.registry_find?_of_unmanaged filed]; rfl
  | some number =>
      obtain ⟨object, found, _⟩ := sound.fits key number filed
      have process : (scene.sessionAt number).pid = object.body.pid := by
        rw [sessionAt_of_found found]
      rw [session?_of_managed filed, sound.registry_find?_of_managed filed found, Option.filter,
        Option.filter, process]
      split <;> rfl

theorem snapshot_roster (awake : Bool) : scene.snapshot awake = scene.roster.snapshot awake := by
  have sessions : ∀ number ∈ scene.managed.values,
      (scene.sessions[number]?.map fun object =>
        SessionSnapshot.ofParts object.body.handle object.body.pid object.body.appId
          object.body.state ((scene.heldSurfaces object).map fun held => .ofSurface held.2)) =
        some (.ofSession (scene.sessionAt number)) := by
    intro number member
    obtain ⟨key, filed⟩ := KeyMap.mem_values_iff.1 member
    obtain ⟨object, found, _⟩ := sound.fits key number filed
    have pictures : (scene.heldSurfaces object).map (fun held => SurfaceSnapshot.ofSurface held.2) =
        (scene.surfacesAt object.held).map .ofSurface := by
      simp only [heldSurfaces, surfacesAt, List.map_filterMap, Option.map_map]
      rfl
    rw [found, Option.map_some, pictures, sessionAt_of_found found]
    rfl
  have values : scene.roster.sessions.values = scene.managed.values.map scene.sessionAt := by
    simp [roster, KeyMap.values]
  rw [snapshot, Roster.snapshot, values, List.map_filterMap, List.filterMap_congr sessions]
  simp

end Sound

end Scene

/-! ## Runs of calls -/

/-- A call to a roster, or to a session or surface that is found in it. -/
inductive RosterCall where
  | addSession (handle : SessionHandle) (pid : UInt32) (appId : String)
  | removeSession (handle : SessionHandle)
  | removeAll
  /-- A session follows an edge of the transition graph. -/
  | move (handle : SessionHandle) (op : LifecycleOp)
  | addSurface (handle : SurfaceHandle) (session : SessionHandle) (persistentId : SurfaceId)
      (title : String) (chrome : ChromeLevel)
  | removeSurface (handle : SurfaceHandle)
  | reparent (handle : SurfaceHandle) (target : SessionHandle)
  | touch (handle : SurfaceHandle) (touch : Touch)

/-- What comes back from a call: who is meant, by value. -/
inductive RosterAnswer where
  | nothing
  | whether (agreed : Option Bool)
  | sessions (met : List Session)
  | surface (made : Option Surface)
  | parted (surface : Option (SessionHandle × Surface))

/-- Carries out a call to a roster. -/
def Roster.obey (roster : Roster) : RosterCall → Step Roster RosterAnswer
  | .addSession handle pid appId =>
      let step := roster.addSession handle pid appId
      step.answering (.sessions [step.answer])
  | .removeSession handle =>
      let step := roster.removeSession handle
      step.answering (.sessions step.answer.toList)
  | .removeAll =>
      let step := roster.removeAll
      step.answering (.sessions step.answer)
  | .move handle op =>
      let step := roster.onSession handle (·.apply op)
      step.answering (.whether step.answer)
  | .addSurface handle session persistentId title chrome =>
      let step := roster.addSurface handle session persistentId title chrome
      step.answering (.surface step.answer)
  | .removeSurface handle =>
      let step := roster.removeSurface handle
      step.answering (.parted step.answer)
  | .reparent handle target =>
      let step := roster.reparentSurface handle target
      step.answering (.whether (some step.answer))
  | .touch handle touch => (roster.onSurface handle touch.act).answering .nothing

namespace Scene

variable {α β : Type} {scene : Scene}

/-- Carries out a call to the roster of a scene. What comes back is read off the objects. -/
def obey (scene : Scene) : RosterCall → Step Scene RosterAnswer
  | .addSession handle pid appId =>
      let step := scene.addSession handle pid appId
      step.answering (.sessions [step.state.sessionAt step.answer])
  | .removeSession handle =>
      let step := scene.removeSession handle
      step.answering (.sessions (step.answer.map step.state.sessionAt).toList)
  | .removeAll =>
      let step := scene.removeAll
      step.answering (.sessions (step.answer.map step.state.sessionAt))
  | .move handle op =>
      let step := scene.move handle op
      step.answering (.whether step.answer)
  | .addSurface handle session persistentId title chrome =>
      let step := scene.addSurface handle session persistentId title chrome
      step.answering (.surface (step.answer.bind (step.state.surfaces[·]?)))
  | .removeSurface handle =>
      let step := scene.removeSurface handle
      step.answering (.parted (step.state.partedFrom step.answer))
  | .reparent handle target =>
      let (next, moved) := scene.reparent handle target
      .quiet next (.whether (some moved))
  | .touch handle touch => (scene.touch handle touch).answering .nothing

/-- What is read in an answer may be wrapped on both sides. -/
theorem Realizes.wrap {step : Step Scene α} {plain : Step Roster β} {read : Scene → α → β}
    (realizes : Realizes step plain read) (wrap : β → RosterAnswer) :
    Realizes (step.answering (wrap (read step.state step.answer)))
      (plain.answering (wrap plain.answer)) fun _ answer => answer where
  sound := realizes.sound
  roster := realizes.roster
  answer := congrArg wrap realizes.answer
  effects := realizes.effects

/-- Each call does to the objects what it does to the roster. -/
theorem Sound.obey (sound : scene.Sound) (call : RosterCall) :
    Realizes (scene.obey call) (scene.roster.obey call) fun _ answer => answer := by
  cases call with
  | addSession handle pid appId =>
      exact (sound.addSession handle pid appId).wrap fun session => .sessions [session]
  | removeSession handle =>
      exact (sound.removeSession handle).wrap fun found => .sessions found.toList
  | removeAll => exact sound.removeAll.wrap .sessions
  | move handle op => exact (sound.move handle op).wrap .whether
  | addSurface handle session persistentId title chrome =>
      exact (sound.addSurface handle session persistentId title chrome).wrap .surface
  | removeSurface handle => exact (sound.removeSurface handle).wrap .parted
  | reparent handle target =>
      exact (sound.reparent handle target).wrap fun moved => .whether (some moved)
  | touch handle touch => exact (sound.touch handle touch).wrap fun _ => .nothing

end Scene

/-- Carries out calls one after the other. -/
def RosterCall.run {σ ι : Type} (obey : σ → ι → Step σ RosterAnswer) :
    List ι → σ → Step σ (List RosterAnswer)
  | [], state => .quiet state []
  | call :: rest, state =>
      (obey state call).andThen fun answer next =>
        let later := run obey rest next
        later.answering (answer :: later.answer)

namespace Scene

variable {scene : Scene}

/-- Carries out a call while the outside holds sessions in slots. -/
def obeyHolding (scene : Scene) (posted : List (Option Nat) × RosterCall) :
    Step Scene RosterAnswer :=
  { scene with slots := posted.1 }.obey posted.2

theorem Sound.run (sound : scene.Sound) (posted : List (List (Option Nat) × RosterCall)) :
    Realizes (RosterCall.run obeyHolding posted scene)
      (RosterCall.run Roster.obey (posted.map (·.2)) scene.roster) fun _ answers => answers := by
  induction posted generalizing scene with
  | nil => exact realizes_quiet sound rfl
  | cons first rest ih =>
      have now := (sound.withSlots first.1).obey first.2
      rw [roster_withSlots] at now
      have later := ih now.sound
      rw [now.roster] at later
      constructor
      · exact later.sound
      · exact later.roster
      · exact congrArg₂ List.cons now.answer later.answer
      · exact congrArg₂ (· ++ ·) now.effects later.effects

/-- Whatever is called, a scene answers, tells the shell and shows what the roster does, and leads
to the same sessions and surfaces. That holds whichever sessions, those that have ended among them,
the outside holds on to at each call and in the end. -/
theorem run_like_roster (posted : List (List (Option Nat) × RosterCall))
    (slots : List (Option Nat)) :
    let step := RosterCall.run obeyHolding posted .empty
    let plain := RosterCall.run Roster.obey (posted.map (·.2)) .empty
    let last : Scene := { step.state with slots := slots }
    step.answer = plain.answer ∧ step.effects = plain.effects ∧
      (∀ awake, last.snapshot awake = plain.state.snapshot awake) ∧
      (∀ handle, plain.state.findSession? handle = (last.find? handle).map last.sessionAt) ∧
      (∀ pid walk, plain.state.findByPid? pid walk =
        (last.findByPid? pid walk).map last.sessionAt) ∧
      (∀ handle, plain.state.ownerOf? handle = (last.ownerOf? handle).map last.sessionAt) ∧
      ∀ handle, plain.state.surface? handle =
        (last.surface? handle).bind (last.surfaces[·]?) := by
  intro step plain last
  have realizes : Realizes step plain fun _ answers => answers := empty_sound.run posted
  have sound : last.Sound := realizes.sound.withSlots slots
  have same : last.roster = plain.state := (roster_withSlots slots).trans realizes.roster
  rw [← same]
  exact ⟨realizes.answer, realizes.effects, sound.snapshot_roster,
    fun _ => sound.findSession?_roster, sound.findByPid?_roster, fun _ => ownerOf?_roster,
    fun _ => sound.surface?_roster⟩

end Scene

end AppLifecycle
