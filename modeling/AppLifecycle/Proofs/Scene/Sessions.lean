import AppLifecycle.Proofs.Roster.SessionLife
import AppLifecycle.Proofs.Scene.Surfaces

/-!
# Sessions as objects

A session comes up, moves and ends as an object just as it does as a value in the roster. One that
has ended is still there for those who hold on to it, but holds nothing, and nothing that happens in
the roster later reaches it.
-/

namespace AppLifecycle.Scene

variable {α : Type} {scene : Scene} {object : SessionObject} {key other : SessionHandle}
  {number rival surface : Nat}

/-! ## A session that comes up -/

section Arrival

variable {pid : UInt32} {appId : String}

/-- The scene with a new session that is registered. -/
def enroll (key : SessionHandle) (pid : UInt32) (appId : String) (scene : Scene) : Scene :=
  { scene with
    sessions := scene.sessions ++ [⟨.create key pid appId, []⟩]
    managed := scene.managed.insert key scene.sessions.length
    registry := scene.registry.register key scene.sessions.length }

theorem addSession_of_absent (absent : scene.managed? key = none) :
    scene.addSession key pid appId =
      ⟨scene.enroll key pid appId, scene.sessions.length,
        [.notify (.sessionAdded key appId)]⟩ := by
  rw [addSession, absent]
  simp only [newSession, register, List.getElem?_concat_length]
  rfl

theorem managed?_enroll : (scene.enroll key pid appId).managed? other =
    if other = key then some scene.sessions.length else scene.managed? other :=
  KeyMap.find?_insert ..

theorem sessionAt_enroll :
    (scene.enroll key pid appId).sessionAt scene.sessions.length = .create key pid appId := by
  rw [sessionAt_of_found (List.getElem?_concat_length ..)]
  rfl

theorem Sound.changesAt_enroll (sound : scene.Sound) :
    scene.ChangesAt (scene.enroll key pid appId) key where
  elsewhere other different := by
    refine ⟨managed?_enroll.trans (if_neg different), ?_, fun _ _ => rfl⟩
    intro number filed
    obtain ⟨object, found, _⟩ := sound.fits other number filed
    exact List.getElem?_append_left (List.getElem?_eq_some_iff.1 found).1
  here number filed := by
    rw [managed?_enroll, if_pos rfl] at filed
    cases filed
    exact ⟨_, List.getElem?_concat_length .., ⟨rfl, rfl, by simp, by simp⟩, by simp⟩
  registered other := by
    rw [managed?_enroll, ← sound.registered]
    exact KeyMap.find?_insert ..

theorem Sound.roster_enroll (sound : scene.Sound) :
    (scene.enroll key pid appId).roster = scene.roster.enroll key pid appId := by
  apply sound.changesAt_enroll.roster_eq sound rfl
  · rw [managed?_enroll, if_pos rfl, Option.map_some, sessionAt_enroll, Roster.session?_enroll,
      if_pos rfl]
  · intro other different
    rw [Roster.session?_enroll, if_neg different]
  · intro other
    rw [managed?_enroll]
    apply (KeyMap.find?_insert ..).trans
    rw [sound.registry_roster]
    by_cases equal : other = key
    · simp [equal]
    · simp [equal]

theorem Sound.addSession (sound : scene.Sound) (key : SessionHandle) (pid : UInt32)
    (appId : String) :
    Realizes (scene.addSession key pid appId) (scene.roster.addSession key pid appId)
      sessionAt := by
  cases filed : scene.managed? key with
  | some number =>
      rw [Scene.addSession, filed, Roster.addSession_of_found (session?_of_managed filed)]
      exact realizes_quiet sound rfl
  | none =>
      rw [addSession_of_absent filed, Roster.addSession_of_absent (session?_of_unmanaged filed)]
      exact ⟨sound.changesAt_enroll.keeps_sound sound, sound.roster_enroll, sessionAt_enroll, rfl⟩

end Arrival

/-! ## A session that moves -/

/-- The scene with another object under the number of a session. -/
def setSession (number : Nat) (object : SessionObject) (scene : Scene) : Scene :=
  { scene with sessions := scene.sessions.set number object }

theorem onSession_of_found {act : Session → Step Session α}
    (found : scene.sessions[number]? = some object) :
    scene.onSession number act =
      ⟨scene.setSession number { object with body := (act object.body).state },
        some (act object.body).answer, (act object.body).effects⟩ := by
  rw [onSession, found]
  rfl

theorem sessions_setSession {next : SessionObject}
    (found : scene.sessions[number]? = some object) :
    (scene.setSession number next).sessions[number]? = some next :=
  List.getElem?_set_self (List.getElem?_eq_some_iff.1 found).1

theorem Sound.setSession_alters (sound : scene.Sound) (filed : scene.managed? key = some number)
    (found : scene.sessions[number]? = some object) (state : SessionState) :
    scene.Alters (scene.setSession number { object with body.state := state }) key number where
  filed := filed
  managed := rfl
  registry := rfl
  objects _ different := List.getElem?_set_ne (Ne.symm different)
  surfaces _ _ _ _ := rfl
  here := by
    have fits := sound.fits_of_found filed found
    refine ⟨_, sessions_setSession found,
      ⟨fits.handle, fits.bare, fits.known, fits.distinct⟩, ?_⟩
    exact fun surface member => .inl ⟨number, object, filed, found, member⟩

/-- A session of the roster follows an edge of the transition graph. -/
def move (key : SessionHandle) (op : LifecycleOp) (scene : Scene) : Step Scene (Option Bool) :=
  match scene.managed? key with
  | some number => scene.onSession number (·.apply op)
  | none => .quiet scene none

theorem Sound.move (sound : scene.Sound) (key : SessionHandle) (op : LifecycleOp) :
    Realizes (scene.move key op) (scene.roster.onSession key (·.apply op))
      fun _ moved => moved := by
  cases filed : scene.managed? key with
  | none =>
      rw [Scene.move, filed, Roster.onSession_of_absent (session?_of_unmanaged filed)]
      exact realizes_quiet sound rfl
  | some number =>
      obtain ⟨object, found, _⟩ := sound.fits key number filed
      obtain ⟨state, moved⟩ := object.body.apply_state op
      have alters := sound.setSession_alters filed found state
      have session := object.body.apply_withSurfaces (scene.surfacesAt object.held) op
      rw [← sessionAt_of_found found] at session
      simp only [Scene.move, filed]
      rw [onSession_of_found found, Roster.onSession_of_found (session?_of_managed filed), session,
        moved]
      refine ⟨alters.keeps_sound sound, ?_, rfl, rfl⟩
      rw [alters.roster_eq sound, sessionAt_of_found (sessions_setSession found)]
      rfl

/-! ## A session that ends -/

/-- Releases the surfaces of some numbers, one after the other. -/
def releaseEach (numbers : List Nat) (scene : Scene) : Step Scene Unit :=
  Step.forEach numbers
    (fun surface scene => (scene.onSurface surface (·.markReleased)).answering ()) scene

theorem surfaces_released :
    (scene.onSurface surface (·.markReleased)).state.surfaces[rival]? =
      if rival = surface then scene.surfaces[rival]?.map (·.markReleased.state)
      else scene.surfaces[rival]? := by
  cases known : scene.surfaces[surface]? with
  | none =>
      rw [onSurface_of_unknown known, Step.quiet]
      by_cases equal : rival = surface
      · subst equal
        simp [known]
      · rw [if_neg equal]
  | some content =>
      rw [onSurface_of_known known, surfaces_setSurface]
      by_cases equal : rival = surface
      · subst equal
        simp [known]
      · rw [if_neg (Ne.symm equal), if_neg equal]

theorem onSurface_frame (surface : Nat) (act : Surface → Step Surface α) (scene : Scene) :
    ∃ surfaces, (scene.onSurface surface act).state = { scene with surfaces := surfaces } := by
  cases known : scene.surfaces[surface]? with
  | none => exact ⟨scene.surfaces, by rw [onSurface_of_unknown known]; rfl⟩
  | some content => exact ⟨_, by rw [onSurface_of_known known]; rfl⟩

theorem releaseEach_frame (numbers : List Nat) (scene : Scene) :
    ∃ surfaces, (scene.releaseEach numbers).state = { scene with surfaces := surfaces } := by
  induction numbers generalizing scene with
  | nil => exact ⟨scene.surfaces, rfl⟩
  | cons surface rest ih =>
      obtain ⟨_, first⟩ := onSurface_frame surface (·.markReleased) scene
      obtain ⟨surfaces, later⟩ := ih (scene.onSurface surface (·.markReleased)).state
      refine ⟨surfaces, later.trans ?_⟩
      rw [first]

section Release

variable {numbers : List Nat} (distinct : numbers.Nodup)
include distinct

theorem surfaces_releaseEach (scene : Scene) (rival : Nat) :
    (scene.releaseEach numbers).state.surfaces[rival]? =
      if rival ∈ numbers then scene.surfaces[rival]?.map (·.markReleased.state)
      else scene.surfaces[rival]? := by
  induction numbers generalizing scene with
  | nil => rfl
  | cons surface rest ih =>
      obtain ⟨fresh, distinctRest⟩ := List.nodup_cons.1 distinct
      apply (ih distinctRest (scene.onSurface surface (·.markReleased)).state).trans
      rw [surfaces_released]
      by_cases equal : rival = surface
      · subst equal
        simp [fresh]
      · simp [equal]

/-- Each surface is released from the state in which it was before. -/
theorem effects_releaseEach (scene : Scene) :
    (scene.releaseEach numbers).effects =
      (scene.surfacesAt numbers).flatMap fun content => content.markReleased.effects := by
  induction numbers generalizing scene with
  | nil => rfl
  | cons surface rest ih =>
      obtain ⟨fresh, distinctRest⟩ := List.nodup_cons.1 distinct
      have later := ih distinctRest (scene.onSurface surface (·.markReleased)).state
      have untouched : (scene.onSurface surface (·.markReleased)).state.surfacesAt rest =
          scene.surfacesAt rest := by
        apply surfacesAt_congr
        intro rival member
        rw [surfaces_released, if_neg]
        rintro rfl
        exact fresh member
      rw [untouched] at later
      apply (congrArg ((scene.onSurface surface (·.markReleased)).effects ++ ·) later).trans
      cases known : scene.surfaces[surface]? with
      | none => simp [onSurface_of_unknown known, surfacesAt, known, Step.quiet]
      | some content => simp [onSurface_of_known known, surfacesAt, known]

end Release

theorem releaseSurfaces_of_found (found : scene.sessions[number]? = some object) :
    scene.releaseSurfaces number =
      ((scene.setHeld number []).releaseEach object.held).answering object.held := by
  rw [releaseSurfaces, found]
  rfl

theorem setHeld_setSession {held : List Nat} (inside : number < scene.sessions.length) :
    (scene.setSession number object).setHeld number held =
      scene.setSession number { object with held := held } := by
  rw [setHeld, setSession, List.modify_eq_set_getElem?, List.getElem?_set_self inside]
  simp [setSession]

/-- The scene without a session, which has stopped and lets go of its surfaces. -/
def dismiss (key : SessionHandle) (number : Nat) (object : SessionObject) (scene : Scene) : Scene :=
  { scene with managed := scene.managed.erase key }.setSession number
    ⟨(object.body.apply .stop).state, []⟩

theorem removeSession_of_found (filed : scene.managed? key = some number)
    (found : scene.sessions[number]? = some object) :
    scene.removeSession key =
      let released := (scene.dismiss key number object).releaseEach object.held
      ⟨{ released.state with
          owners := (object.held.filterMap released.state.handleAt).foldl KeyMap.erase
            released.state.owners
          registry := released.state.registry.unregister key },
        some number,
        (object.body.apply .stop).effects ++ (released.effects ++
          [.notify (.sessionRemoved key)])⟩ := by
  simp only [removeSession, filed]
  have unlisted : ({ scene with managed := scene.managed.erase key } : Scene).sessions[number]? =
      some object := found
  rw [onSession_of_found unlisted]
  simp only [Step.andThen]
  rw [releaseSurfaces_of_found (sessions_setSession unlisted),
    setHeld_setSession (List.getElem?_eq_some_iff.1 unlisted).1]
  rfl

theorem handleAt_releaseEach {numbers : List Nat} (distinct : numbers.Nodup) :
    (scene.releaseEach numbers).state.handleAt rival = scene.handleAt rival := by
  rw [handleAt, surfaces_releaseEach distinct, handleAt]
  split
  · rw [Option.map_map]
    exact congrArg (scene.surfaces[rival]?.map ·) (funext Surface.handle_markReleased)
  · rfl

section Removal

variable (filed : scene.managed? key = some number)
  (found : scene.sessions[number]? = some object) (distinct : object.held.Nodup)
include filed found

theorem answer_removeSession : (scene.removeSession key).answer = some number := by
  rw [removeSession_of_found filed found]

include distinct

/-- A removal leaves everything alone but the session, its surfaces and what leads to them. -/
theorem removeSession_frame : ∃ surfaces, (scene.removeSession key).state =
    { scene.dismiss key number object with
      surfaces := surfaces
      owners := (object.held.filterMap scene.handleAt).foldl KeyMap.erase scene.owners
      registry := scene.registry.unregister key } := by
  obtain ⟨surfaces, frame⟩ := releaseEach_frame object.held (scene.dismiss key number object)
  have handles : ({ scene.dismiss key number object with surfaces := surfaces } : Scene).handleAt =
      scene.handleAt := by
    rw [← frame]
    exact funext fun _ => handleAt_releaseEach distinct
  refine ⟨surfaces, ?_⟩
  rw [removeSession_of_found filed found]
  simp only [frame, handles]
  rfl

theorem sessions_removeSession : (scene.removeSession key).state.sessions =
    scene.sessions.set number ⟨(object.body.apply .stop).state, []⟩ := by
  obtain ⟨_, frame⟩ := removeSession_frame filed found distinct
  rw [frame]
  rfl

theorem surfaces_removeSession :
    (scene.removeSession key).state.surfaces[rival]? =
      if rival ∈ object.held then scene.surfaces[rival]?.map (·.markReleased.state)
      else scene.surfaces[rival]? := by
  rw [removeSession_of_found filed found]
  exact surfaces_releaseEach distinct _ rival

end Removal

theorem removeSession_of_absent (absent : scene.managed? key = none) :
    scene.removeSession key = .quiet scene none := by
  rw [removeSession, absent]

namespace Sound

variable (sound : scene.Sound)
include sound

theorem managed?_removeSession (key other : SessionHandle) :
    (scene.removeSession key).state.managed? other =
      if other = key then none else scene.managed? other := by
  cases filed : scene.managed? key with
  | none =>
      rw [removeSession_of_absent filed]
      split
      · rename_i equal
        rw [equal]
        exact filed
      · rfl
  | some number =>
      obtain ⟨object, found, fits⟩ := sound.fits key number filed
      obtain ⟨_, frame⟩ := removeSession_frame filed found fits.nodup_held
      rw [frame]
      exact KeyMap.find?_erase ..

theorem changesAt_removeSession (filed : scene.managed? key = some number)
    (found : scene.sessions[number]? = some object) (distinct : object.held.Nodup) :
    scene.ChangesAt (scene.removeSession key).state key where
  elsewhere other different := by
    constructor
    · rw [sound.managed?_removeSession, if_neg different]
    · intro rival filedOther
      rw [sessions_removeSession filed found distinct]
      apply List.getElem?_set_ne
      rintro rfl
      exact different (sound.key_unique filedOther filed)
    · intro surface held
      rw [surfaces_removeSession filed found distinct, if_neg]
      intro member
      exact different (sound.apart other key surface held ⟨number, object, filed, found, member⟩)
  here rival filedHere := by
    rw [sound.managed?_removeSession, if_pos rfl] at filedHere
    contradiction
  registered other := by
    obtain ⟨_, frame⟩ := removeSession_frame filed found distinct
    rw [sound.managed?_removeSession, ← sound.registered, frame]
    exact KeyMap.find?_erase ..

theorem roster_removeSession (filed : scene.managed? key = some number)
    (found : scene.sessions[number]? = some object) (distinct : object.held.Nodup) :
    (scene.removeSession key).state.roster =
      scene.roster.discard key (scene.sessionAt number) := by
  apply (sound.changesAt_removeSession filed found distinct).roster_eq sound
  · obtain ⟨_, frame⟩ := removeSession_frame filed found distinct
    rw [frame, Roster.discard, surfaceHandles_sessionAt found]
    rfl
  · rw [sound.managed?_removeSession, if_pos rfl, Roster.session?_discard, if_pos rfl,
      Option.map_none]
  · intro other different
    rw [Roster.session?_discard, if_neg different]
  · intro other
    rw [sound.managed?_removeSession]
    apply (KeyMap.find?_erase ..).trans
    rw [sound.registry_roster]
    by_cases equal : other = key
    · simp [equal]
    · simp [equal]

theorem removeSession (key : SessionHandle) :
    Realizes (scene.removeSession key) (scene.roster.removeSession key)
      fun scene found => found.map scene.sessionAt := by
  cases filed : scene.managed? key with
  | none =>
      rw [removeSession_of_absent filed,
        Roster.removeSession_of_absent (session?_of_unmanaged filed)]
      exact realizes_quiet sound rfl
  | some number =>
      obtain ⟨object, found, fits⟩ := sound.fits key number filed
      have filedRoster := session?_of_managed filed
      have stopped := object.body.apply_withSurfaces (scene.surfacesAt object.held) .stop
      rw [← sessionAt_of_found found] at stopped
      constructor
      · exact (sound.changesAt_removeSession filed found fits.nodup_held).keeps_sound sound
      · rw [sound.roster_removeSession filed found fits.nodup_held,
          Roster.state_removeSession filedRoster]
      · have here : (scene.removeSession key).state.sessions[number]? =
            some ⟨(object.body.apply .stop).state, []⟩ := by
          rw [sessions_removeSession filed found fits.nodup_held]
          exact List.getElem?_set_self (List.getElem?_eq_some_iff.1 found).1
        rw [answer_removeSession filed found, Option.map_some, sessionAt_of_found here,
          Roster.removeSession, filedRoster]
        simp only [stopped]
        rfl
      · rw [Roster.effects_removeSession filedRoster, Roster.farewell, stopped,
          removeSession_of_found filed found]
        simp only [effects_releaseEach fits.nodup_held, List.append_assoc]
        rw [sessionAt_of_found found]
        rfl

end Sound

/-! ## Ending every session -/

/-- A session that nobody in the roster knows of and that holds nothing. -/
def Retired (scene : Scene) (number : Nat) : Prop :=
  (∀ key, scene.managed? key ≠ some number) ∧ ∃ body, scene.sessions[number]? = some ⟨body, []⟩

theorem retired_of_removeSession (sound : scene.Sound) (filed : scene.managed? key = some number) :
    (scene.removeSession key).state.Retired number := by
  obtain ⟨object, found, fits⟩ := sound.fits key number filed
  constructor
  · intro other filedOther
    rw [sound.managed?_removeSession] at filedOther
    split at filedOther
    · contradiction
    · rename_i different
      exact different (sound.key_unique filedOther filed)
  · rw [sessions_removeSession filed found fits.nodup_held]
    exact ⟨_, List.getElem?_set_self (List.getElem?_eq_some_iff.1 found).1⟩

/-- A retired session is not heard of again. -/
theorem Retired.removeSession (retired : scene.Retired number) (sound : scene.Sound)
    (key : SessionHandle) :
    (scene.removeSession key).state.Retired number ∧
      (scene.removeSession key).state.sessionAt number = scene.sessionAt number := by
  obtain ⟨unlisted, body, bodyFound⟩ := retired
  have same : (scene.removeSession key).state.sessions[number]? = scene.sessions[number]? := by
    cases filed : scene.managed? key with
    | none => rw [removeSession_of_absent filed, Step.quiet]
    | some rival =>
        obtain ⟨object, found, fits⟩ := sound.fits key rival filed
        rw [sessions_removeSession filed found fits.nodup_held]
        apply List.getElem?_set_ne
        rintro rfl
        exact unlisted key filed
  refine ⟨⟨?_, body, same.trans bodyFound⟩, ?_⟩
  · intro other filedOther
    rw [sound.managed?_removeSession] at filedOther
    split at filedOther
    · contradiction
    · exact unlisted other filedOther
  · rw [sessionAt_of_found (same.trans bodyFound), sessionAt_of_found bodyFound]
    rfl

private theorem realizes_removeEach (keys : List SessionHandle) {step : Step Scene (List Nat)}
    {plain : Step Roster (List Session)}
    (realizes : Realizes step plain fun scene numbers => numbers.map scene.sessionAt)
    (retired : ∀ number ∈ step.answer, step.state.Retired number) :
    Realizes
      (keys.foldl (fun step handle => step.andThen fun removed state =>
        (state.removeSession handle).andThen fun session next =>
          .quiet next (removed ++ session.toList)) step)
      (keys.foldl (fun step handle => step.andThen fun removed state =>
        (state.removeSession handle).andThen fun session next =>
          .quiet next (removed ++ session.toList)) plain)
      fun scene numbers => numbers.map scene.sessionAt := by
  induction keys generalizing step plain with
  | nil => exact realizes
  | cons key rest ih =>
      have removal := realizes.sound.removeSession key
      rw [List.foldl_cons, List.foldl_cons]
      apply ih
      · constructor
        · exact removal.sound
        · simp only [Step.andThen, Step.quiet, removal.roster, realizes.roster]
        · simp only [Step.andThen, Step.quiet, List.map_append, ← realizes.roster, ← removal.answer,
            ← realizes.answer, Option.toList_map]
          congr 1
          apply List.map_congr_left
          intro number member
          exact ((retired number member).removeSession realizes.sound key).2
        · simp only [Step.andThen, Step.quiet, ← realizes.roster, removal.effects,
            realizes.effects]
      · intro number member
        rcases List.mem_append.1 member with formerly | now
        · exact ((retired number formerly).removeSession realizes.sound key).1
        · cases filed : step.state.managed? key with
          | none =>
              rw [removeSession_of_absent filed] at now
              simp [Step.quiet] at now
          | some rival =>
              obtain ⟨object, found, _⟩ := realizes.sound.fits key rival filed
              rw [answer_removeSession filed found, Option.toList_some, List.mem_singleton] at now
              rw [now]
              exact retired_of_removeSession realizes.sound filed

theorem Sound.removeAll (sound : scene.Sound) :
    Realizes scene.removeAll scene.roster.removeAll
      fun scene numbers => numbers.map scene.sessionAt := by
  have keys : scene.roster.sessions.keys = scene.managed.keys := by
    simp [roster, KeyMap.keys]
  rw [Roster.removeAll, keys]
  exact realizes_removeEach scene.managed.keys (realizes_quiet sound rfl) (by simp [Step.quiet])

end AppLifecycle.Scene
