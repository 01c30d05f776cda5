import AppLifecycle.Policy
import AppLifecycle.Roster
import AppLifecycle.Coordinator

/-!
# Sessions and surfaces as objects

A roster names sessions and surfaces by handles alone. Somebody who holds on to a session or
surface, though, means the object: it stays what it is when it is removed from the roster, when
its handle is used again, and when another session takes the same surface in. A scene keeps the
objects, each under a number of its own, next to a roster that refers to them by number.

The outside holds sessions in slots, in the order in which it met them. A session lives as long
as the roster or a slot holds it; the registry does not keep it alive.

Where nobody acts on an object but through the roster, a scene does as a roster does
(`Scene.run_like_roster`).
-/

namespace AppLifecycle

/-- A session as an object. -/
structure SessionObject where
  /-- The session, without its surfaces. -/
  body : Session
  /-- The numbers of the surfaces it holds, the one taken first at the front. -/
  held : List Nat
  deriving DecidableEq, Inhabited, Repr

/-- All objects, and the roster that refers to them. -/
structure Scene where
  /-- The sessions by number. -/
  sessions : List SessionObject
  /-- The surfaces by number. -/
  surfaces : List Surface
  /-- What the outside holds; an emptied slot holds nothing. -/
  slots : List (Option Nat)
  /-- The sessions that exist for the roster. -/
  managed : KeyMap SessionHandle Nat
  owners : KeyMap SurfaceHandle SessionHandle
  registry : Registry Nat
  /-- The surfaces that are throttled. -/
  throttled : KeySet SurfaceHandle

namespace Scene

variable {α : Type}

/-- The scene without objects. -/
def empty : Scene where
  sessions := []
  surfaces := []
  slots := []
  managed := ∅
  owners := ∅
  registry := .empty
  throttled := ∅

/-- Whether something keeps a session alive. -/
def isAlive (scene : Scene) (number : Nat) : Bool :=
  scene.managed.values.contains number || scene.slots.contains (some number)

/-- A living session. -/
def resolve? (scene : Scene) (number : Nat) : Option (Nat × SessionObject) :=
  if scene.isAlive number then scene.sessions[number]?.map fun object => (number, object) else none

/-- The session in a slot. -/
def inSlot? (scene : Scene) (slot : Nat) : Option Nat :=
  scene.slots[slot]?.join

/-- The slot in which the outside holds a session, a new one if it had let go of it. -/
def hold (number : Nat) (scene : Scene) : Scene × Nat :=
  match scene.slots.findIdx? (· = some number) with
  | some slot => (scene, slot)
  | none => ({ scene with slots := scene.slots ++ [some number] }, scene.slots.length)

/-- Holds a session, if there is one. -/
def holdFound (number : Option Nat) (scene : Scene) : Scene × Option Nat :=
  match number with
  | some number =>
      let (held, slot) := scene.hold number
      (held, some slot)
  | none => (scene, none)

/-- Holds several sessions. -/
def holdAll (numbers : List Nat) (scene : Scene) : Scene × List Nat :=
  numbers.foldl
    (fun (scene, slots) number =>
      let (held, slot) := scene.hold number
      (held, slots ++ [slot]))
    (scene, [])

/-- Lets go of the session in a slot. -/
def dropSlot (slot : Nat) (scene : Scene) : Scene :=
  { scene with slots := scene.slots.set slot none }

/-- Makes a session that nobody knows of. Answers with its number. -/
def newSession (handle : SessionHandle) (pid : UInt32) (appId : String) (scene : Scene) :
    Scene × Nat :=
  ({ scene with sessions := scene.sessions ++ [⟨.create handle pid appId, []⟩] },
    scene.sessions.length)

/-- Makes a surface that no session holds. Answers with its number. -/
def newSurface (surface : Surface) (scene : Scene) : Scene × Nat :=
  ({ scene with surfaces := scene.surfaces ++ [surface] }, scene.surfaces.length)

/-- Acts on a session. -/
def onSession (number : Nat) (act : Session → Step Session α) (scene : Scene) :
    Step Scene (Option α) :=
  match scene.sessions[number]? with
  | some object =>
      let step := act object.body
      ⟨{ scene with sessions := scene.sessions.set number { object with body := step.state } },
        some step.answer, step.effects⟩
  | none => .quiet scene none

/-- Acts on a surface. -/
def onSurface (number : Nat) (act : Surface → Step Surface α) (scene : Scene) :
    Step Scene (Option α) :=
  match scene.surfaces[number]? with
  | some surface =>
      let step := act surface
      ⟨{ scene with surfaces := scene.surfaces.set number step.state }, some step.answer,
        step.effects⟩
  | none => .quiet scene none

/-- The surfaces that a session holds. -/
def heldSurfaces (scene : Scene) (object : SessionObject) : List (Nat × Surface) :=
  object.held.filterMap fun number => scene.surfaces[number]?.map fun surface => (number, surface)

/-- The surface of a handle that a session holds. -/
def heldSurface? (scene : Scene) (session : Nat) (handle : SurfaceHandle) : Option Nat :=
  scene.sessions[session]?.bind fun object =>
    ((scene.heldSurfaces object).find? fun held => held.2.handle = handle).map (·.1)

/-- Replaces the list of the surfaces that a session holds. -/
def setHeld (session : Nat) (held : List Nat) (scene : Scene) : Scene :=
  { scene with
    sessions := scene.sessions.modify session fun object => { object with held := held } }

/-- Lets a session take a surface in. It becomes the owner even if it already holds a surface of
the same handle and therefore does not take this one. -/
def adopt (session surface : Nat) (scene : Scene) : Scene :=
  match scene.sessions[session]?, scene.surfaces[surface]? with
  | some object, some found =>
      let owned :=
        { scene with
          surfaces := scene.surfaces.set surface { found with owner := object.body.handle } }
      if (scene.heldSurface? session found.handle).isSome then owned
      else owned.setHeld session (object.held ++ [surface])
  | _, _ => scene

/-- Lets a session give the surface of a handle away. -/
def take (session : Nat) (handle : SurfaceHandle) (scene : Scene) : Scene × Option Nat :=
  match scene.sessions[session]?, scene.heldSurface? session handle with
  | some object, some surface => (scene.setHeld session (object.held.erase surface), some surface)
  | _, _ => (scene, none)

/-- Lets a session give all its surfaces away, each one released. -/
def releaseSurfaces (session : Nat) (scene : Scene) : Step Scene (List Nat) :=
  match scene.sessions[session]? with
  | some object =>
      (Step.forEach object.held
          (fun surface scene => (scene.onSurface surface (·.markReleased)).answering ())
          (scene.setHeld session [])).answering object.held
  | none => .quiet scene []

/-- Enters a session into the registry. -/
def register (number : Nat) (scene : Scene) : Scene :=
  match scene.sessions[number]? with
  | some object =>
      { scene with registry := scene.registry.register object.body.handle number }
  | none => scene

/-- Enters the session in a slot into the registry. An emptied slot has none to enter. -/
def registerSlot (slot : Nat) (scene : Scene) : Scene :=
  match scene.inSlot? slot with
  | some number => scene.register number
  | none => scene

/-- Strikes a handle out of the registry. Answers whether it was entered. -/
def unregister (handle : SessionHandle) (scene : Scene) : Scene × Bool :=
  ({ scene with registry := scene.registry.unregister handle }, scene.registry.contains handle)

/-- The living session that the registry has under a handle. -/
def find? (scene : Scene) (handle : SessionHandle) : Option Nat :=
  (scene.registry.find? scene.resolve? handle).map (·.1)

/-- A living session of a process that the registry has: the first on a walk. -/
def findByPid? (scene : Scene) (pid : UInt32) (walk : Registry.Walk := .ascending) : Option Nat :=
  (scene.registry.findWhere? walk scene.resolve? fun found => found.2.body.pid == pid).map (·.1)

/-- The session that the roster has under a handle. -/
def managed? (scene : Scene) (handle : SessionHandle) : Option Nat :=
  scene.managed.find? handle

/-- The session that holds the surface of a handle, by the roster's index. -/
def ownerOf? (scene : Scene) (handle : SurfaceHandle) : Option Nat :=
  (scene.owners.find? handle).bind scene.managed?

/-- The surface of a handle. -/
def surface? (scene : Scene) (handle : SurfaceHandle) : Option Nat :=
  (scene.ownerOf? handle).bind (scene.heldSurface? · handle)

/-- Brings up a session in the roster. One that exists there already stays as it is. -/
def addSession (handle : SessionHandle) (pid : UInt32) (appId : String) (scene : Scene) :
    Step Scene Nat :=
  match scene.managed? handle with
  | some number => .quiet scene number
  | none =>
      let (made, number) := scene.newSession handle pid appId
      { state := ({ made with managed := made.managed.insert handle number }).register number
        answer := number
        effects := [.notify (.sessionAdded handle appId)] }

/-- Ends a session for good and takes it out of the roster. -/
def removeSession (handle : SessionHandle) (scene : Scene) : Step Scene (Option Nat) :=
  match scene.managed? handle with
  | none => .quiet scene none
  | some number =>
      let unlisted := { scene with managed := scene.managed.erase handle }
      (unlisted.onSession number (·.apply .stop)).andThen fun _ stopped =>
        (stopped.releaseSurfaces number).andThen fun released scene =>
          let handles := released.filterMap fun surface => scene.surfaces[surface]?.map (·.handle)
          { state :=
              { scene with
                owners := handles.foldl KeyMap.erase scene.owners
                registry := scene.registry.unregister handle }
            answer := some number
            effects := [.notify (.sessionRemoved handle)] }

/-- Whether a session has stopped. -/
def isStopped (scene : Scene) (number : Nat) : Bool :=
  scene.sessions[number]?.any fun object => object.body.state.isTerminal

/-- Brings up a surface in a session of the roster. -/
def addSurface (handle : SurfaceHandle) (session : SessionHandle) (persistentId : SurfaceId)
    (title : String) (chrome : ChromeLevel) (scene : Scene) : Step Scene (Option Nat) :=
  match scene.managed? session with
  | none => .quiet scene none
  | some owner =>
      if scene.owners.contains handle || scene.isStopped owner then
        .quiet scene none
      else
        let (made, number) := scene.newSurface (.create handle session persistentId title chrome)
        let adopted := made.adopt owner number
        { state := { adopted with owners := adopted.owners.insert handle session }
          answer := some number
          effects := [.notify (.surfaceAdded handle session)] }

/-- Takes a surface away from its session and releases it. -/
def removeSurface (handle : SurfaceHandle) (scene : Scene) : Step Scene (Option (Nat × Nat)) :=
  let unindexed := { scene with owners := scene.owners.erase handle }
  match scene.ownerOf? handle with
  | none => .quiet unindexed none
  | some owner =>
      match unindexed.take owner handle with
      | (_, none) => .quiet unindexed none
      | (taken, some surface) =>
          (taken.onSurface surface (·.markReleased)).answering (some (owner, surface))

/-- Hands a surface over to another session of the roster. -/
def reparent (handle : SurfaceHandle) (target : SessionHandle) (scene : Scene) : Scene × Bool :=
  match scene.managed? target, scene.ownerOf? handle with
  | some receiver, some giver =>
      if scene.isStopped receiver then (scene, false)
      else if giver = receiver then (scene, true)
      else
        match scene.take giver handle with
        | (_, none) => (scene, false)
        | (taken, some surface) =>
            let adopted := taken.adopt receiver surface
            ({ adopted with owners := adopted.owners.insert handle target }, true)
  | _, _ => (scene, false)

/-- Ends every session of the roster, in handle order. -/
def removeAll (scene : Scene) : Step Scene (List Nat) :=
  scene.managed.keys.foldl
    (fun step handle =>
      step.andThen fun removed state =>
        (state.removeSession handle).andThen fun session next =>
          .quiet next (removed ++ session.toList))
    (.quiet scene [])

/-- The picture of the sessions of the roster. -/
def snapshot (scene : Scene) (wakeLockEnabled : Bool) : ShellSnapshot where
  sessions :=
    (scene.managed.values.filterMap (scene.sessions[·]?)).map fun object =>
      .ofParts object.body.handle object.body.pid object.body.appId object.body.state
        ((scene.heldSurfaces object).map fun held => .ofSurface held.2)
  wakeLockEnabled := wakeLockEnabled

/-- The roster in short, as logs show it. -/
def summary (scene : Scene) : String :=
  "ApplicationManager \x7b sessions: " ++ toString scene.managed.size ++ ", surfaces: " ++
    toString scene.owners.size ++ " \x7d"

/-- The occasion on which a policy is asked. -/
inductive Occasion where
  | suspended
  | resumed
  | removed
  deriving DecidableEq, Inhabited, Repr

/-- Asks a policy about the session in a slot and a surface, whatever they have to do with each
other. A surface that is gone needs no session; otherwise nothing is asked about an emptied slot.
Answers whether the surface is throttled afterwards. -/
def consultPolicy (policy : SurfacePolicy (KeySet SurfaceHandle)) (occasion : Occasion)
    (slot surface : Nat) (scene : Scene) : Step Scene Bool :=
  match scene.surfaces[surface]? with
  | some found =>
      let session := ((scene.inSlot? slot).bind (scene.sessions[·]?)).map (·.body.view)
      let (throttled, requests) :=
        match occasion, session with
        | .suspended, some view => policy.suspended scene.throttled view found.view
        | .resumed, some view => policy.resumed scene.throttled view found.view
        | .removed, _ => (policy.removed scene.throttled found.handle, [])
        | _, none => (scene.throttled, [])
      ({ scene with throttled := throttled }.onSurface surface
        (Coordinator.obeyDropper requests)).answering (throttled.contains found.handle)
  | none => .quiet scene false

end Scene

end AppLifecycle
