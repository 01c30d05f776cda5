import AppLifecycle.Proofs.Roster.SurfaceLife
import AppLifecycle.Proofs.Scene.Sound

/-!
# Surfaces as objects

A surface comes up, is touched, changes hands and leaves as an object just as it does as a value in
the roster. In between, when one session has given it away and no other has taken it in yet, nobody
in the roster can tell what is done to it.
-/

namespace AppLifecycle.Scene

variable {α : Type} {scene : Scene} {object : SessionObject} {key : SessionHandle}
  {number rival surface : Nat} {handle : SurfaceHandle}

/-! ## A new surface -/

/-- A number that is not given out yet is held by no session. -/
theorem Sound.free_length (sound : scene.Sound) : scene.Free scene.surfaces.length := by
  rintro key ⟨number, object, filed, found, member⟩
  obtain ⟨handle, known⟩ := (sound.fits_of_found filed found).known _ member
  simp [handleAt] at known

theorem Sound.newSurface_keeps (sound : scene.Sound) (content : Surface) (key : SessionHandle) :
    scene.Keeps (scene.newSurface content).1 key where
  managed := rfl
  objects _ _ := rfl
  surfaces surface held := by
    have inside : surface ≠ scene.surfaces.length := by
      rintro rfl
      exact sound.free_length key held
    simp only [newSurface, List.getElem?_append]
    split
    · rfl
    · rename_i outside
      have beyond : scene.surfaces.length < surface := by omega
      rw [List.getElem?_eq_none (Nat.le_of_lt beyond), List.getElem?_eq_none]
      simp only [List.length_singleton]
      omega

/-! ## Changing one surface -/

/-- The scene with another surface under a number. -/
def setSurface (surface : Nat) (content : Surface) (scene : Scene) : Scene :=
  { scene with surfaces := scene.surfaces.set surface content }

theorem surfaces_setSurface {content : Surface} :
    (scene.setSurface surface content).surfaces[rival]? =
      if surface = rival then scene.surfaces[rival]?.map fun _ => content
      else scene.surfaces[rival]? :=
  List.getElem?_set'

theorem handleAt_setSurface {content next : Surface}
    (known : scene.surfaces[surface]? = some content) (same : next.handle = content.handle)
    (rival : Nat) :
    (scene.setSurface surface next).handleAt rival = scene.handleAt rival := by
  rw [handleAt, surfaces_setSurface, handleAt]
  split
  · rename_i equal
    subst equal
    rw [known, Option.map_some, Option.map_some, Option.map_some, same]
  · rfl

theorem onSurface_of_unknown {act : Surface → Step Surface α}
    (unknown : scene.surfaces[surface]? = none) :
    scene.onSurface surface act = .quiet scene none := by
  rw [onSurface, unknown]

theorem onSurface_of_known {act : Surface → Step Surface α} {content : Surface}
    (known : scene.surfaces[surface]? = some content) :
    scene.onSurface surface act =
      ⟨scene.setSurface surface (act content).state, some (act content).answer,
        (act content).effects⟩ := by
  rw [onSurface, known]
  rfl

theorem setSurface_keeps (free : scene.Free surface) (content : Surface) (key : SessionHandle) :
    scene.Keeps (scene.setSurface surface content) key where
  managed := rfl
  objects _ _ := rfl
  surfaces rival held := by
    rw [surfaces_setSurface, if_neg]
    rintro rfl
    exact free key held

/-- In its session the surface takes the place of the one of its handle. -/
theorem Fits.surfacesAt_setSurface (fits : scene.Fits key object) (member : surface ∈ object.held)
    {content next : Surface} (known : scene.surfaces[surface]? = some content)
    (named : content.handle = handle) :
    (scene.setSurface surface next).surfacesAt object.held =
      (scene.surfacesAt object.held).map fun candidate =>
        if candidate.handle = handle then next else candidate := by
  rw [surfacesAt, surfacesAt, List.map_filterMap]
  apply List.filterMap_congr
  intro rival memberToo
  rw [surfaces_setSurface]
  by_cases equal : surface = rival
  · subst equal
    simp [known, named]
  · rw [if_neg equal]
    cases knownToo : scene.surfaces[rival]? with
    | none => rfl
    | some candidate =>
        have different : candidate.handle ≠ handle := by
          intro same
          apply equal (fits.handleAt_inj member memberToo _)
          rw [handleAt, known, handleAt, knownToo, Option.map_some, Option.map_some, named, same]
        simp [different]

theorem Sound.setSurface_alters (sound : scene.Sound) (filed : scene.managed? key = some number)
    (found : scene.sessions[number]? = some object) (member : surface ∈ object.held)
    {content next : Surface} (known : scene.surfaces[surface]? = some content)
    (same : next.handle = content.handle) :
    scene.Alters (scene.setSurface surface next) key number where
  filed := filed
  managed := rfl
  registry := rfl
  objects _ _ := rfl
  surfaces other rival different held := by
    rw [surfaces_setSurface, if_neg]
    rintro rfl
    exact different (sound.apart other key surface held ⟨number, object, filed, found, member⟩)
  here := by
    have fits := sound.fits_of_found filed found
    have handles := handleAt_setSurface known same
    refine ⟨object, found, ⟨fits.handle, fits.bare, ?_, ?_⟩, ?_⟩
    · intro rival memberToo
      rw [handles]
      exact fits.known rival memberToo
    · rw [List.map_congr_left fun rival _ => handles rival]
      exact fits.distinct
    · exact fun rival memberToo => .inl ⟨number, object, filed, found, memberToo⟩

/-! ## Changing what a session holds -/

theorem sessions_setHeld {held : List Nat} (found : scene.sessions[number]? = some object) :
    (scene.setHeld number held).sessions[rival]? =
      if rival = number then some { object with held := held } else scene.sessions[rival]? := by
  rw [setHeld, List.getElem?_modify]
  split
  · rename_i equal
    subst equal
    rw [if_pos rfl, found]
    rfl
  · rename_i different
    rw [if_neg (Ne.symm different), id_map']

theorem sessionAt_setHeld {held : List Nat} (found : scene.sessions[number]? = some object) :
    (scene.setHeld number held).sessionAt number =
      { object.body with surfaces := scene.surfacesAt held } := by
  rw [sessionAt_of_found ((sessions_setHeld found).trans (if_pos rfl))]
  rfl

theorem Sound.setHeld_alters (sound : scene.Sound) (filed : scene.managed? key = some number)
    (found : scene.sessions[number]? = some object) {held : List Nat}
    (known : ∀ surface ∈ held, ∃ handle, scene.handleAt surface = some handle)
    (distinct : (held.map scene.handleAt).Nodup)
    (origin : ∀ surface ∈ held, surface ∈ object.held ∨ scene.Free surface) :
    scene.Alters (scene.setHeld number held) key number where
  filed := filed
  managed := rfl
  registry := rfl
  objects rival different := (sessions_setHeld found).trans (if_neg different)
  surfaces _ _ _ _ := rfl
  here := by
    have fits := sound.fits_of_found filed found
    refine ⟨_, (sessions_setHeld found).trans (if_pos rfl),
      ⟨fits.handle, fits.bare, known, distinct⟩, ?_⟩
    intro surface member
    exact (origin surface member).imp_left fun formerly => ⟨number, object, filed, found, formerly⟩

/-! ## Giving a surface away and taking one in -/

/-- A session gave the surface of a handle away, and no session of the roster holds it now. -/
structure Gives (scene later : Scene) (key : SessionHandle) (number : Nat) (handle : SurfaceHandle)
    (surface : Nat) (content : Surface) : Prop where
  sound : later.Sound
  managed : later.managed = scene.managed
  known : later.surfaces[surface]? = some content
  free : later.Free surface
  sought : (scene.sessionAt number).surface? handle = some content
  roster : later.roster = scene.roster.put key ((scene.sessionAt number).without handle)

/-- What one session lets go of no other holds. -/
theorem Sound.free_erase (sound : scene.Sound) (filed : scene.managed? key = some number)
    (found : scene.sessions[number]? = some object) (member : surface ∈ object.held) :
    (scene.setHeld number (object.held.erase surface)).Free surface := by
  rintro other ⟨rival, holder, rivalFiled, rivalFound, memberToo⟩
  rw [sessions_setHeld found] at rivalFound
  split at rivalFound
  · cases rivalFound
    exact (sound.fits_of_found filed found).nodup_held.not_mem_erase memberToo
  · rename_i different
    have one : key = other := sound.apart key other surface
      ⟨number, object, filed, found, member⟩ ⟨rival, holder, rivalFiled, rivalFound, memberToo⟩
    subst one
    exact different (Option.some.inj (rivalFiled.symm.trans filed))

theorem Sound.gives (sound : scene.Sound) (filed : scene.managed? key = some number)
    (held : scene.heldSurface? number handle = some surface) :
    ∃ later content, scene.take number handle = (later, some surface) ∧
      scene.Gives later key number handle surface content := by
  obtain ⟨object, found, fits⟩ := sound.fits key number filed
  obtain ⟨member, content, known, named, sought⟩ := of_heldSurface? found held
  have called : scene.handleAt surface = some handle := by rw [handleAt, known, ← named]; rfl
  have fewer := object.held.erase_sublist (a := surface)
  have alters : scene.Alters (scene.setHeld number (object.held.erase surface)) key number :=
    sound.setHeld_alters filed found (fun rival rest => fits.known rival (fewer.subset rest))
      (fits.distinct.sublist (fewer.map _)) fun rival rest => .inl (fewer.subset rest)
  have left : (scene.setHeld number (object.held.erase surface)).sessionAt number =
      (scene.sessionAt number).without handle := by
    rw [sessionAt_setHeld found, fits.surfacesAt_erase member called, sessionAt_of_found found]
    rfl
  refine ⟨_, content, by rw [take, found, held], alters.keeps_sound sound, rfl, known,
    sound.free_erase filed found member, sought, ?_⟩
  rw [alters.roster_eq sound, left]
  rfl

/-- What a session holds in addition comes last. -/
theorem Sound.append_alters (sound : scene.Sound) (filed : scene.managed? key = some number)
    (found : scene.sessions[number]? = some object) (free : scene.Free surface)
    (named : scene.handleAt surface = some handle)
    (fresh : handle ∉ (scene.sessionAt number).surfaceHandles) :
    scene.Alters (scene.setHeld number (object.held ++ [surface])) key number := by
  have fits := sound.fits_of_found filed found
  have unheld : scene.handleAt surface ∉ object.held.map scene.handleAt := by
    intro member
    obtain ⟨rival, memberToo, called⟩ := List.mem_map.1 member
    rw [named] at called
    rw [surfaceHandles_sessionAt found] at fresh
    exact fresh (List.mem_filterMap.2 ⟨rival, memberToo, called⟩)
  apply sound.setHeld_alters filed found
  · intro rival member
    rcases List.mem_append.1 member with formerly | new
    · exact fits.known rival formerly
    · rw [List.mem_singleton.1 new]
      exact ⟨handle, named⟩
  · rw [List.map_append, List.map_singleton]
    exact fits.distinct.append (List.nodup_singleton _) (by simpa using unheld)
  · intro rival member
    rcases List.mem_append.1 member with formerly | new
    · exact .inl formerly
    · rw [List.mem_singleton.1 new]
      exact .inr free

theorem sessionAt_append (found : scene.sessions[number]? = some object) {content : Surface}
    (known : scene.surfaces[surface]? = some content)
    (owned : content.owner = (scene.sessionAt number).handle)
    (fresh : content.handle ∉ (scene.sessionAt number).surfaceHandles) :
    (scene.setHeld number (object.held ++ [surface])).sessionAt number =
      (scene.sessionAt number).adopt content := by
  have last : scene.surfacesAt [surface] =
      [{ content with owner := (scene.sessionAt number).handle }] := by
    rw [← owned, surfacesAt, List.filterMap_cons, known]
    rfl
  rw [sessionAt_setHeld found, Session.adopt_of_not_mem fresh, ← last, sessionAt_of_found found,
    surfacesAt, List.filterMap_append]
  rfl

/-- A session took a surface in, unless it holds one of its handle. -/
structure Adopts (scene later : Scene) (key : SessionHandle) (number surface : Nat)
    (content : Surface) : Prop where
  sound : later.Sound
  managed : later.managed = scene.managed
  owners : later.owners = scene.owners
  known : later.surfaces[surface]? = some { content with owner := key }
  roster : later.roster = scene.roster.put key ((scene.sessionAt number).adopt content)

theorem Sound.adopts (sound : scene.Sound) (filed : scene.managed? key = some number)
    {content : Surface} (known : scene.surfaces[surface]? = some content)
    (free : scene.Free surface) :
    scene.Adopts (scene.adopt number surface) key number surface content := by
  obtain ⟨object, found, fits⟩ := sound.fits key number filed
  -- The surface has its new owner before it is taken in, which nobody in the roster can tell.
  let owned := scene.setSurface surface { content with owner := key }
  have ownedKnown : owned.surfaces[surface]? = some { content with owner := key } := by
    rw [surfaces_setSurface, if_pos rfl, known, Option.map_some]
  have keeps : ∀ other, scene.Keeps owned other := setSurface_keeps free _
  have ownedSound : owned.Sound := sound.of_keeps keeps rfl
  have ownedRoster : owned.roster = scene.roster := sound.roster_of_keeps keeps rfl rfl
  have same : owned.sessionAt number = scene.sessionAt number := (keeps key).sessionAt_eq filed
  have adopted : scene.adopt number surface =
      if (scene.heldSurface? number content.handle).isSome then owned
      else owned.setHeld number (object.held ++ [surface]) := by
    simp only [adopt, found, known, fits.handle]
    rfl
  rw [adopted]
  cases sought : scene.heldSurface? number content.handle with
  | some rival =>
      have member : content.handle ∈ (scene.sessionAt number).surfaceHandles := by
        obtain ⟨_, _, _, _, held⟩ := of_heldSurface? found sought
        exact Session.mem_surfaceHandles_of_surface? held
      refine ⟨ownedSound, rfl, rfl, ownedKnown, ?_⟩
      rw [Session.adopt, if_pos member, Roster.put_self (session?_of_managed filed)]
      exact ownedRoster
  | none =>
      have fresh : content.handle ∉ (owned.sessionAt number).surfaceHandles := by
        rw [same]
        exact Session.surface?_eq_none_iff.1 ((heldSurface?_eq_none_iff found).1 sought)
      have named : owned.handleAt surface = some content.handle := by
        rw [handleAt, ownedKnown, Option.map_some]
      have ownedFound : owned.sessions[number]? = some object := found
      have alters := ownedSound.append_alters filed ownedFound free named fresh
      have session := sessionAt_append ownedFound ownedKnown
        (ownedSound.handle_sessionAt filed).symm fresh
      refine ⟨alters.keeps_sound ownedSound, rfl, rfl, ownedKnown, ?_⟩
      have put := alters.roster_eq ownedSound
      rw [session, same, ownedRoster] at put
      exact put

/-! ## A surface that comes up -/

section Arrival

variable {persistentId : SurfaceId} {title : String} {chrome : ChromeLevel}

theorem Sound.addSurface_of_refused (sound : scene.Sound)
    (refused : scene.roster.Refuses handle key) :
    scene.addSurface handle key persistentId title chrome = .quiet scene none := by
  cases filed : scene.managed? key with
  | none => rw [addSurface, filed]
  | some number =>
      obtain ⟨object, found, _⟩ := sound.fits key number filed
      simp only [addSurface, filed, isStopped_eq found]
      apply if_pos
      rcases refused with used | stopped
      · rw [← owners_roster, used, Bool.true_or]
      · rw [stopped _ (session?_of_managed filed)]
        exact Bool.or_true _

theorem addSurface_of_accepted (filed : scene.managed? key = some number)
    (unused : scene.owners.contains handle = false) (active : scene.isStopped number = false) :
    scene.addSurface handle key persistentId title chrome =
      let made := (scene.newSurface (.create handle key persistentId title chrome)).1
      let adopted := made.adopt number scene.surfaces.length
      ⟨{ adopted with owners := adopted.owners.insert handle key }, some scene.surfaces.length,
        [.notify (.surfaceAdded handle key)]⟩ := by
  simp only [addSurface, filed, unused, active, Bool.or_self]
  rfl

theorem Sound.addSurface (sound : scene.Sound) (handle : SurfaceHandle) (key : SessionHandle)
    (persistentId : SurfaceId) (title : String) (chrome : ChromeLevel) :
    Realizes (scene.addSurface handle key persistentId title chrome)
      (scene.roster.addSurface handle key persistentId title chrome)
      fun scene made => made.bind (scene.surfaces[·]?) := by
  by_cases refused : scene.roster.Refuses handle key
  · rw [sound.addSurface_of_refused refused, Roster.addSurface_of_refused refused]
    exact realizes_quiet sound rfl
  · obtain ⟨absent, session, foundSession⟩ := Roster.accepts_of_not_refuses refused
    obtain ⟨number, filed, rfl⟩ :=
      Option.map_eq_some_iff.1 (session?_roster.symm.trans foundSession)
    obtain ⟨object, found, _⟩ := sound.fits key number filed
    have active : (scene.sessionAt number).state ≠ .stopped := by
      intro stopped
      apply refused (.inr _)
      intro session again
      cases foundSession.symm.trans again
      exact stopped
    have running : scene.isStopped number = false := by
      rw [isStopped_eq found]
      simpa [SessionState.isTerminal] using active
    rw [Roster.addSurface_of_accepted absent foundSession active,
      addSurface_of_accepted filed (KeyMap.contains_eq_false_iff.2 absent) running]
    generalize named : Surface.create handle key persistentId title chrome = content
    have keeps := sound.newSurface_keeps content
    have made : (scene.newSurface content).1.Sound := sound.of_keeps keeps rfl
    have free : (scene.newSurface content).1.Free scene.surfaces.length :=
      fun other held => sound.free_length other ((keeps other).holds_iff.1 held)
    have adopts := made.adopts filed List.getElem?_concat_length free
    have roster := adopts.roster
    rw [sound.roster_of_keeps keeps rfl rfl, (keeps key).sessionAt_eq filed] at roster
    refine ⟨adopts.sound.withOwners _, ?_, ?_, rfl⟩
    · rw [roster_withOwners, roster, adopts.owners, Roster.deliver, ← named]
      rfl
    · apply adopts.known.trans
      rw [← named]
      rfl

end Arrival

/-! ## A surface that leaves -/

theorem take_of_none (absent : scene.heldSurface? number handle = none) :
    scene.take number handle = (scene, none) := by
  rw [take, absent]
  cases scene.sessions[number]? <;> rfl

theorem take?_eq_none (found : scene.sessions[number]? = some object)
    (absent : scene.heldSurface? number handle = none) :
    (scene.sessionAt number).take? handle = none := by
  rw [Session.take?, (heldSurface?_eq_none_iff found).1 absent, Option.map_none]

/-- What comes back with a surface that leaves. -/
def partedFrom (scene : Scene) (parted : Option (Nat × Nat)) : Option (SessionHandle × Surface) :=
  parted.bind fun (owner, surface) =>
    scene.surfaces[surface]?.map fun content => ((scene.sessionAt owner).handle, content)

theorem partedFrom_of_known {content : Surface} (known : scene.surfaces[surface]? = some content) :
    scene.partedFrom (some (number, surface)) =
      some ((scene.sessionAt number).handle, content) := by
  simp [partedFrom, known]

theorem Sound.removeSurface (sound : scene.Sound) (handle : SurfaceHandle) :
    Realizes (scene.removeSurface handle) (scene.roster.removeSurface handle) partedFrom := by
  let unindexed : Scene := { scene with owners := scene.owners.erase handle }
  have unindexedSound : unindexed.Sound := sound.withOwners _
  have unindexedRoster : unindexed.roster =
      { scene.roster with owners := scene.roster.owners.erase handle } := roster_withOwners _
  cases owned : scene.ownerOf? handle with
  | none =>
      have missing : scene.roster.ownerOf? handle = none := by rw [ownerOf?_roster, owned]; rfl
      rw [Roster.removeSurface_of_missing (by rw [missing]; rfl), ← unindexedRoster]
      simp only [Scene.removeSurface, owned]
      exact realizes_quiet unindexedSound rfl
  | some number =>
      obtain ⟨key, object, indexed, filed, found, _⟩ := sound.of_ownerOf? owned
      simp only [Scene.removeSurface, owned]
      cases held : scene.heldSurface? number handle with
      | none =>
          have missing : (scene.roster.ownerOf? handle).bind (·.take? handle) = none := by
            rw [ownerOf?_roster, owned]
            exact take?_eq_none found held
          have unheld : unindexed.heldSurface? number handle = none := held
          rw [Roster.removeSurface_of_missing missing, ← unindexedRoster, take_of_none unheld]
          exact realizes_quiet unindexedSound rfl
      | some surface =>
          obtain ⟨later, content, took, gives⟩ := unindexedSound.gives filed held
          have keeps := setSurface_keeps gives.free content.markReleased.state
          have after := gives.sound.of_keeps keeps rfl
          rw [Roster.removeSurface_of_found indexed (session?_of_managed filed) gives.sought, took]
          simp only [onSurface_of_known gives.known, Step.answering]
          refine ⟨after, ?_, ?_, rfl⟩
          · rw [gives.sound.roster_of_keeps keeps rfl rfl, gives.roster, unindexedRoster]
            rfl
          · have filedLater : (later.setSurface surface content.markReleased.state).managed? key =
                some number := by
              rw [(keeps key).managed, managed?, gives.managed]
              exact filed
            have released :
                (later.setSurface surface content.markReleased.state).surfaces[surface]? =
                  some content.markReleased.state := by
              rw [surfaces_setSurface, if_pos rfl, gives.known, Option.map_some]
            rw [partedFrom_of_known released, after.handle_sessionAt filedLater]

/-! ## A surface that changes hands -/

/-- What one session gives away another one of the roster may take in. -/
theorem Sound.handsOver (sound : scene.Sound) {giver receiver : Nat} {target : SessionHandle}
    (filed : scene.managed? key = some giver) (filedTarget : scene.managed? target = some receiver)
    (different : key ≠ target) (held : scene.heldSurface? giver handle = some surface) :
    ∃ later content, scene.take giver handle = (later, some surface) ∧
      (scene.sessionAt giver).surface? handle = some content ∧
      (later.adopt receiver surface).Sound ∧
      (later.adopt receiver surface).roster =
        (scene.roster.put key ((scene.sessionAt giver).without handle)).put target
          ((scene.sessionAt receiver).adopt content) := by
  obtain ⟨later, content, took, gives⟩ := sound.gives filed held
  have filedLater : later.managed? target = some receiver := by
    rw [managed?, gives.managed]
    exact filedTarget
  have same : later.sessionAt receiver = scene.sessionAt receiver := by
    have session : later.roster.session? target = scene.roster.session? target := by
      rw [gives.roster, Roster.session?_put, if_neg (Ne.symm different)]
    rw [session?_of_managed filedLater, session?_of_managed filedTarget] at session
    exact Option.some.inj session
  have adopts := gives.sound.adopts filedLater gives.known gives.free
  refine ⟨later, content, took, gives.sought, adopts.sound, ?_⟩
  rw [adopts.roster, gives.roster, same]

theorem Sound.reparent (sound : scene.Sound) (handle : SurfaceHandle) (target : SessionHandle) :
    Realizes (.quiet (scene.reparent handle target).1 (scene.reparent handle target).2)
      (scene.roster.reparentSurface handle target) fun _ whether => whether := by
  cases filedTarget : scene.managed? target with
  | none =>
      simp only [Scene.reparent, filedTarget,
        Roster.reparentSurface_of_unknown (session?_of_unmanaged filedTarget)]
      exact realizes_quiet sound rfl
  | some receiver =>
      obtain ⟨_, receiverFound, _⟩ := sound.fits target receiver filedTarget
      cases owned : scene.ownerOf? handle with
      | none =>
          have unowned : scene.roster.ownerOf? handle = none := by
            rw [ownerOf?_roster, owned, Option.map_none]
          simp only [Scene.reparent, filedTarget, owned, Roster.reparentSurface_of_unowned unowned]
          exact realizes_quiet sound rfl
      | some giver =>
          obtain ⟨key, object, indexed, filed, found, _⟩ := sound.of_ownerOf? owned
          have same : giver = receiver ↔ key = target := by
            constructor
            · rintro rfl
              exact sound.key_unique filed filedTarget
            · rintro rfl
              exact Option.some.inj (filed.symm.trans filedTarget)
          simp only [Scene.reparent, filedTarget, owned, isStopped_eq receiverFound, same,
            Roster.reparentSurface, session?_of_managed filedTarget, session?_of_managed filed,
            owners_roster, indexed]
          by_cases stopped : (scene.sessionAt receiver).state.isTerminal
          · simp only [if_pos stopped]
            exact realizes_quiet sound rfl
          simp only [if_neg stopped]
          by_cases sameKey : key = target
          · simp only [if_pos sameKey]
            exact realizes_quiet sound rfl
          simp only [if_neg sameKey]
          cases held : scene.heldSurface? giver handle with
          | none =>
              simp only [take_of_none held, take?_eq_none found held]
              exact realizes_quiet sound rfl
          | some surface =>
              obtain ⟨later, content, took, sought, after, roster⟩ :=
                sound.handsOver filed filedTarget sameKey held
              simp only [took, Session.take?_of_found sought]
              refine ⟨after.withOwners _, ?_, rfl, rfl⟩
              exact congrArg (fun roster : Roster =>
                { roster with owners := roster.owners.insert handle target }) roster

/-! ## Touching a surface -/

/-- Touches the surface of a handle. -/
def touch (handle : SurfaceHandle) (touch : Touch) (scene : Scene) : Step Scene Unit :=
  match scene.surface? handle with
  | some surface => (scene.onSurface surface touch.act).answering ()
  | none => .quiet scene ()

theorem Sound.touch (sound : scene.Sound) (handle : SurfaceHandle) (touch : Touch) :
    Realizes (scene.touch handle touch) ((scene.roster.onSurface handle touch.act).answering ())
      fun _ answer => answer := by
  cases sought : scene.surface? handle with
  | none =>
      have missing : scene.roster.surface? handle = none := by
        rw [sound.surface?_roster, sought, Option.bind_none]
      rw [Scene.touch, sought, Roster.onSurface_of_missing missing]
      exact realizes_quiet sound rfl
  | some surface =>
      obtain ⟨number, owned, held⟩ := Option.bind_eq_some_iff.1 sought
      obtain ⟨key, object, indexed, filed, found, fits⟩ := sound.of_ownerOf? owned
      obtain ⟨member, content, known, named, surfaceFound⟩ := of_heldSurface? found held
      have alters := sound.setSurface_alters filed found member known
        (touch.act_gentle content).handle
      have session : (scene.setSurface surface (touch.act content).state).sessionAt number =
          ((scene.sessionAt number).onSurface handle touch.act).state := by
        have sameFound : (scene.setSurface surface (touch.act content).state).sessions[number]? =
            some object := found
        rw [Session.onSurface_of_found surfaceFound, sessionAt_of_found sameFound,
          fits.surfacesAt_setSurface member known named, sessionAt_of_found found]
      rw [Scene.touch, sought, Roster.onSurface_of_found indexed (session?_of_managed filed),
        Roster.onSession_of_found (session?_of_managed filed)]
      simp only [onSurface_of_known known, Step.answering]
      refine ⟨alters.keeps_sound sound, ?_, rfl, (Session.effects_onSurface surfaceFound).symm⟩
      rw [alters.roster_eq sound, session]
      rfl

end AppLifecycle.Scene
