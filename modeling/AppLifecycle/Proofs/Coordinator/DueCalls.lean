import AppLifecycle.Proofs.Coordinator.Fate

/-!
# Who holds a surface, and when the policy is to be called

Which calls of the policy are due about a surface as one roster becomes another is told by who
holds the surface, and in which state, before and after (`callsDue`). For each change that a move
can make to a roster the holders are given, and the calls that are due about all surfaces.
-/

namespace AppLifecycle

namespace PolicyHook

/-- The surface that a call is about. -/
def surface : PolicyHook → SurfaceHandle
  | suspended _ surface | resumed _ surface => surface.handle
  | removed handle => handle

/-- The call about a surface that is held by a session in its state, if there is one. -/
def ofHolder? (session : SessionView) (surface : SurfaceView) : Option PolicyHook :=
  match session.state with
  | .suspended => some (.suspended session surface)
  | .running => some (.resumed session surface)
  | .starting | .suspending | .stopped => none

/-- A call about a surface shows its holder, who is suspended or running. -/
theorem shows_holder {session : SessionView} {surface : SurfaceView} {call : PolicyHook}
    (called : ofHolder? session surface = some call) :
    (session.state = .suspended ∧ call = .suspended session surface) ∨
      (session.state = .running ∧ call = .resumed session surface) := by
  unfold ofHolder? at called
  split at called
  · rename_i suspended
    exact .inl ⟨suspended, (Option.some.inj called).symm⟩
  · rename_i running
    exact .inr ⟨running, (Option.some.inj called).symm⟩
  · contradiction
  · contradiction
  · contradiction

/-- What a call shows of a session and of a surface that it holds. -/
def shown? : PolicyHook → Option (SessionView × SurfaceView)
  | suspended session surface | resumed session surface => some (session, surface)
  | removed _ => none

theorem shown?_of_holder {session : SessionView} {surface : SurfaceView} {call : PolicyHook}
    (called : ofHolder? session surface = some call) : call.shown? = some (session, surface) := by
  rcases shows_holder called with ⟨_, rfl⟩ | ⟨_, rfl⟩ <;> rfl

theorem surface_of_holder {session : SessionView} {surface : SurfaceView} {call : PolicyHook}
    (called : ofHolder? session surface = some call) : call.surface = surface.handle := by
  rcases shows_holder called with ⟨_, rfl⟩ | ⟨_, rfl⟩ <;> rfl

/-- Of the calls about surfaces that are gone one at most is about a surface. -/
theorem filter_removed {handles : List SurfaceHandle} (distinct : handles.Nodup)
    (handle : SurfaceHandle) :
    (handles.map removed).filter (·.surface = handle) =
      if handle ∈ handles then [.removed handle] else [] := by
  have same : (handles.map removed).filter (·.surface = handle) =
      (handles.filter (· = handle)).map .removed := by
    rw [List.filter_map]
    rfl
  rw [same, List.filter_eq]
  split
  · rename_i member
    rw [List.count_eq_one_of_mem distinct member]
    rfl
  · rename_i absent
    rw [List.count_eq_zero_of_not_mem absent]
    rfl

end PolicyHook

/-- What a policy sees of a surface that has just come up. -/
def SurfaceView.fresh (handle : SurfaceHandle) : SurfaceView where
  handle := handle
  live := true
  presentation := .restored
  dropperRunning := true

namespace Roster

/-- The session that holds a surface, as a policy sees it. -/
def holder? (roster : Roster) (handle : SurfaceHandle) : Option SessionView :=
  (roster.ownerOf? handle).map (·.view)

/-- What a policy sees of a surface, if it is there, or as it comes up. -/
def view (roster : Roster) (handle : SurfaceHandle) : SurfaceView :=
  ((roster.surface? handle).map (·.view)).getD (.fresh handle)

/-- The calls about a surface that are due as one roster becomes another. -/
def callsDue (before after : Roster) (handle : SurfaceHandle) : List PolicyHook :=
  match before.holder? handle, after.holder? handle with
  | some _, none => [.removed handle]
  | none, none => []
  | former, some holder =>
      if former = some holder then []
      else (PolicyHook.ofHolder? holder (before.view handle)).toList

variable {roster before after : Roster} {handle : SurfaceHandle} {key : SessionHandle}
  {session : Session} {holder : SessionView}

/-! ## Calls that are due -/

theorem callsDue_of_same (same : after.holder? handle = before.holder? handle) :
    callsDue before after handle = [] := by
  unfold callsDue
  rw [same]
  cases before.holder? handle with
  | none => rfl
  | some holder => exact if_pos rfl

theorem callsDue_of_gone (held : before.holder? handle = some holder)
    (gone : after.holder? handle = none) : callsDue before after handle = [.removed handle] := by
  rw [callsDue, held, gone]

theorem callsDue_of_new (new : before.holder? handle ≠ some holder)
    (held : after.holder? handle = some holder) :
    callsDue before after handle =
      (PolicyHook.ofHolder? holder (before.view handle)).toList := by
  unfold callsDue
  rw [held]
  cases former : before.holder? handle with
  | none => exact if_neg (by simp)
  | some other =>
      rw [former] at new
      exact if_neg new

/-- A call that is due and does not tell that a surface is gone is about its new holder. -/
theorem mem_callsDue {call : PolicyHook} (due : call ∈ callsDue before after handle) :
    call = .removed handle ∨ ∃ holder, after.holder? handle = some holder ∧
      PolicyHook.ofHolder? holder (before.view handle) = some call := by
  cases held : after.holder? handle with
  | none =>
      cases former : before.holder? handle with
      | none =>
          rw [callsDue_of_same (held.trans former.symm)] at due
          contradiction
      | some holder =>
          rw [callsDue_of_gone former held] at due
          exact .inl (List.mem_singleton.1 due)
  | some holder =>
      by_cases same : before.holder? handle = some holder
      · rw [callsDue_of_same (held.trans same.symm)] at due
        contradiction
      · rw [callsDue_of_new same held] at due
        exact .inr ⟨holder, rfl, Option.mem_toList.1 due⟩

/-- The calls about surfaces that go are due. -/
theorem removed_due {handles : List SurfaceHandle} (distinct : handles.Nodup)
    (held : ∀ handle ∈ handles, before.holder? handle ≠ none)
    (gone : ∀ handle ∈ handles, after.holder? handle = none)
    (spared : ∀ handle ∉ handles, after.holder? handle = before.holder? handle)
    (other : SurfaceHandle) :
    (handles.map PolicyHook.removed).filter (·.surface = other) = callsDue before after other := by
  rw [PolicyHook.filter_removed distinct]
  split
  · rename_i member
    obtain ⟨holder, former⟩ := Option.ne_none_iff_exists'.1 (held other member)
    rw [callsDue_of_gone former (gone other member)]
  · rename_i absent
    rw [callsDue_of_same (spared other absent)]

/-- The call about a surface that a session takes in is due. -/
theorem joined_due (named : (before.view handle).handle = handle)
    (new : before.holder? handle ≠ some holder)
    (held : ∀ other, after.holder? other =
      if other = handle then some holder else before.holder? other)
    (other : SurfaceHandle) :
    (PolicyHook.ofHolder? holder (before.view handle)).toList.filter (·.surface = other) =
      callsDue before after other := by
  by_cases equal : other = handle
  · have joins : after.holder? handle = some holder := (held handle).trans (if_pos rfl)
    rw [equal, callsDue_of_new new joins]
    apply List.filter_eq_self.2
    intro call member
    have about := PolicyHook.surface_of_holder (Option.mem_toList.1 member)
    rw [about, named]
    exact decide_eq_true rfl
  · rw [callsDue_of_same ((held other).trans (if_neg equal))]
    apply List.filter_eq_nil_iff.2
    intro call member
    have about := PolicyHook.surface_of_holder (Option.mem_toList.1 member)
    rw [about, named, decide_eq_true_eq]
    exact Ne.symm equal

/-! ## Who holds a surface -/

/-- The holder is told by the index and the states of the sessions. -/
theorem Consistent.holder?_eq (consistent : roster.Consistent) (handle : SurfaceHandle) :
    roster.holder? handle =
      (roster.owners.find? handle).bind fun key => (roster.state? key).map (⟨key, ·⟩) := by
  rw [holder?, ownerOf?]
  cases roster.owners.find? handle with
  | none => rfl
  | some key =>
      rw [Option.bind_some, Option.bind_some, state?]
      cases found : roster.session? key with
      | none => rfl
      | some session =>
          rw [← (consistent.sound key session found).handle]
          rfl

theorem Consistent.holder?_of_held (consistent : roster.Consistent)
    (found : roster.session? key = some session) (member : handle ∈ session.surfaceHandles) :
    roster.holder? handle = some ⟨key, session.state⟩ := by
  rw [consistent.holder?_eq, consistent.owners_of_mem found member, Option.bind_some,
    state?_of_session? found, Option.map_some]

theorem holder?_of_absent (absent : roster.owners.find? handle = none) :
    roster.holder? handle = none := by
  rw [holder?, ownerOf?, absent]
  rfl

/-- The holder stays as it is with the index and the state of the session that it names. -/
theorem Consistent.holder?_congr (consistent : before.Consistent) (later : after.Consistent)
    (owners : after.owners.find? handle = before.owners.find? handle)
    (states : ∀ key, before.owners.find? handle = some key → after.state? key = before.state? key) :
    after.holder? handle = before.holder? handle := by
  rw [later.holder?_eq, consistent.holder?_eq, owners]
  cases indexed : before.owners.find? handle with
  | none => rfl
  | some key => rw [Option.bind_some, Option.bind_some, states key indexed]

/-- The index names the holder. -/
theorem Consistent.handle_holder? (consistent : roster.Consistent) (handle : SurfaceHandle) :
    (roster.holder? handle).map (·.handle) = roster.owners.find? handle := by
  rw [consistent.holder?_eq]
  cases indexed : roster.owners.find? handle with
  | none => rfl
  | some key =>
      obtain ⟨session, found, _⟩ := (consistent.indexed handle key).1 indexed
      rw [Option.bind_some, state?_of_session? found]
      rfl

theorem Consistent.holder?_eq_none_iff (consistent : roster.Consistent) :
    roster.holder? handle = none ↔ roster.surface? handle = none := by
  rw [consistent.surface?_eq_none_iff]
  constructor
  · intro unheld
    cases indexed : roster.owners.find? handle with
    | none => rfl
    | some key =>
        obtain ⟨session, owned, _⟩ := consistent.ownerOf?_of_owners indexed
        rw [holder?, owned] at unheld
        contradiction
  · exact holder?_of_absent

theorem view_of_surface? {surface : Surface} (found : roster.surface? handle = some surface) :
    roster.view handle = surface.view := by
  rw [view, found]
  rfl

theorem view_of_absent (absent : roster.surface? handle = none) :
    roster.view handle = .fresh handle := by
  rw [view, absent]
  rfl

theorem Consistent.handle_view (consistent : roster.Consistent) (handle : SurfaceHandle) :
    (roster.view handle).handle = handle := by
  rw [view]
  cases found : roster.surface? handle with
  | none => rfl
  | some surface => exact consistent.handle_of_surface? found

theorem Consistent.live_view (consistent : roster.Consistent) (handle : SurfaceHandle) :
    (roster.view handle).live = true := by
  rw [view]
  cases found : roster.surface? handle with
  | none => rfl
  | some surface => exact consistent.live_of_surface? found

end Roster

/-! ## Calls about the surfaces of one session -/

namespace Session

variable {β : Type} {session : Session} {handle : SurfaceHandle}

theorem filterMap_surfaceHandles (distinct : session.surfaceHandles.Nodup)
    (image : Surface → Option β) :
    session.surfaceHandles.filterMap (fun handle => (session.surface? handle).bind image) =
      session.surfaces.filterMap image := by
  rw [surfaceHandles, List.filterMap_map]
  apply List.filterMap_congr
  intro surface member
  have found := (surface?_eq_some_iff distinct).2 ⟨member, rfl⟩
  rw [Function.comp, found, Option.bind_some]

private theorem filterMap_find? {surfaces : List Surface}
    (distinct : (surfaces.map (·.handle)).Nodup) (image : Surface → Option β) :
    surfaces.filterMap (fun surface => if surface.handle = handle then image surface else none) =
      ((surfaces.find? fun surface => surface.handle = handle).bind image).toList := by
  induction surfaces with
  | nil => rfl
  | cons first rest ih =>
      rw [List.map_cons, List.nodup_cons] at distinct
      rw [List.filterMap_cons, ih distinct.2, List.find?_cons]
      by_cases equal : first.handle = handle
      · rw [find?_behind distinct.1 equal]
        cases result : image first <;> simp [equal, result]
      · simp [equal]

/-- Of the calls about all surfaces one about a surface is that of the surface of its handle. -/
theorem calls_about (distinct : session.surfaceHandles.Nodup) (holder : SessionView)
    (handle : SurfaceHandle) :
    (session.surfaces.filterMap fun surface =>
        PolicyHook.ofHolder? holder surface.view).filter (·.surface = handle) =
      ((session.surface? handle).bind fun surface =>
        PolicyHook.ofHolder? holder surface.view).toList := by
  rw [surface?, ← filterMap_find? distinct, List.filter_filterMap]
  apply List.filterMap_congr
  intro surface _
  cases called : PolicyHook.ofHolder? holder surface.view with
  | none => simp
  | some call =>
      have about : call.surface = surface.handle := PolicyHook.surface_of_holder called
      simp [Option.filter_some, about]

end Session

/-! ## Who holds a surface after an operation -/

namespace Roster

variable {roster : Roster} {key : SessionHandle} {session : Session}

theorem holder?_enroll (consistent : roster.Consistent) (absent : roster.session? key = none)
    {pid : UInt32} {appId : String} {handle : SurfaceHandle} :
    (roster.enroll key pid appId).holder? handle = roster.holder? handle := by
  apply consistent.holder?_congr (consistent.enroll absent) rfl
  intro holder indexed
  obtain ⟨session, found, _⟩ := (consistent.indexed handle holder).1 indexed
  rw [state?_enroll, if_neg]
  rintro rfl
  rw [absent] at found
  contradiction

theorem holder?_discard (consistent : roster.Consistent)
    (found : roster.session? key = some session) {handle : SurfaceHandle} :
    (roster.discard key session).holder? handle =
      if handle ∈ session.surfaceHandles then none else roster.holder? handle := by
  split
  · rename_i member
    exact holder?_of_absent (owners_discard.trans (if_pos member))
  · rename_i absent
    apply consistent.holder?_congr (consistent.discard found)
    · exact owners_discard.trans (if_neg absent)
    · intro holder indexed
      rw [state?_discard, if_neg]
      rintro rfl
      exact absent (consistent.mem_of_owners found indexed)

theorem holder?_collect (consistent : roster.Consistent)
    (found : roster.session? key = some session) {handle other : SurfaceHandle}
    (member : handle ∈ session.surfaceHandles) :
    (roster.collect key session handle).holder? other =
      if other = handle then none else roster.holder? other := by
  split
  · rename_i equal
    exact holder?_of_absent (owners_collect.trans (if_pos equal))
  · rename_i different
    apply consistent.holder?_congr (consistent.collect found member)
    · exact owners_collect.trans (if_neg different)
    · exact fun _ _ => state?_collect found

theorem holder?_deliver (consistent : roster.Consistent) {receiver : Session}
    (found : roster.session? key = some receiver) {surface : Surface}
    (absent : roster.owners.find? surface.handle = none) (live : surface.live = true)
    {other : SurfaceHandle} :
    (roster.deliver key receiver surface).holder? other =
      if other = surface.handle then some ⟨key, receiver.state⟩ else roster.holder? other := by
  have later := consistent.deliver found absent live
  split
  · rename_i equal
    have owned : (roster.deliver key receiver surface).owners.find? other = some key :=
      owners_deliver.trans (if_pos equal)
    rw [later.holder?_eq, owned, Option.bind_some, state?_deliver found,
      state?_of_session? found, Option.map_some]
  · rename_i different
    apply consistent.holder?_congr later
    · exact owners_deliver.trans (if_neg different)
    · exact fun _ _ => state?_deliver found

theorem holder?_handOver (consistent : roster.Consistent)
    (found : roster.session? key = some session) {handle other : SurfaceHandle} {surface : Surface}
    (held : session.surface? handle = some surface) {target : SessionHandle} {receiver : Session}
    (foundTarget : roster.session? target = some receiver) (different : key ≠ target) :
    ((roster.collect key session handle).deliver target receiver surface).holder? other =
      if other = handle then some ⟨target, receiver.state⟩ else roster.holder? other := by
  have member := Session.mem_surfaceHandles_of_surface? held
  obtain ⟨surfaceMember, named⟩ := Session.mem_of_surface?_eq_some held
  have live := (consistent.sound key session found).live surface surfaceMember
  rw [holder?_deliver (consistent.collect found member)
    (session?_collect_target foundTarget different) (owners_collect_held held) live, named]
  split
  · rfl
  · rename_i elsewhere
    rw [holder?_collect consistent found member, if_neg elsewhere]

theorem holder?_onSurface {α : Type} {act : Surface → Step Surface α}
    (gentle : Surface.Gentle act) (consistent : roster.Consistent) {handle other : SurfaceHandle} :
    (roster.onSurface handle act).state.holder? other = roster.holder? other := by
  apply consistent.holder?_congr (consistent.onSurface gentle)
  · rw [owners_onSurface]
  · exact fun _ _ => state?_onSurface

theorem holder?_removeAll {handle : SurfaceHandle} :
    roster.removeAll.state.holder? handle = none := by
  rw [holder?, ownerOf?]
  cases roster.removeAll.state.owners.find? handle with
  | none => rfl
  | some key => rw [Option.bind_some, session?_removeAll, Option.map_none]

/-! ## Calls that are due after an operation -/

/-- The calls about the surfaces of a session that comes into a state are due. -/
theorem entered_due (consistent : roster.Consistent) (found : roster.session? key = some session)
    {target : SessionState} (different : target ≠ session.state) (active : target ≠ .stopped)
    (other : SurfaceHandle) :
    (session.surfaces.filterMap fun surface =>
        PolicyHook.ofHolder? ⟨key, target⟩ surface.view).filter (·.surface = other) =
      callsDue roster (roster.put key { session with state := target }) other := by
  have later := consistent.move found active
  have distinct := (consistent.sound key session found).distinct
  rw [Session.calls_about distinct]
  by_cases member : other ∈ session.surfaceHandles
  · obtain ⟨surface, held⟩ := Session.exists_surface?_of_mem member
    have seen : roster.view other = surface.view :=
      view_of_surface? ((consistent.surface?_of_mem found member).trans held)
    have moved : (roster.put key { session with state := target }).session? key =
        some { session with state := target } := by
      rw [session?_put, if_pos rfl]
    have new : roster.holder? other ≠ some ⟨key, target⟩ := by
      rw [consistent.holder?_of_held found member]
      simp [Ne.symm different]
    rw [callsDue_of_new new (later.holder?_of_held moved member), held, seen]
    rfl
  · have same : (roster.put key { session with state := target }).holder? other =
        roster.holder? other := by
      apply consistent.holder?_congr later rfl
      intro holder indexed
      rw [state?_put, if_neg]
      rintro rfl
      exact member (consistent.mem_of_owners found indexed)
    rw [callsDue_of_same same, Session.surface?_eq_none_iff.2 member]
    rfl

theorem discard_due (consistent : roster.Consistent) (found : roster.session? key = some session)
    (other : SurfaceHandle) :
    (session.surfaceHandles.map PolicyHook.removed).filter (·.surface = other) =
      callsDue roster (roster.discard key session) other := by
  apply removed_due (consistent.sound key session found).distinct
  · intro handle member
    rw [consistent.holder?_of_held found member]
    exact Option.some_ne_none _
  · intro handle member
    rw [holder?_discard consistent found, if_pos member]
  · intro handle absent
    rw [holder?_discard consistent found, if_neg absent]

theorem collect_due (consistent : roster.Consistent) (found : roster.session? key = some session)
    {handle : SurfaceHandle} (member : handle ∈ session.surfaceHandles) (other : SurfaceHandle) :
    ([handle].map PolicyHook.removed).filter (·.surface = other) =
      callsDue roster (roster.collect key session handle) other := by
  apply removed_due (List.nodup_singleton handle)
  · intro gone same
    rw [List.mem_singleton.1 same, consistent.holder?_of_held found member]
    exact Option.some_ne_none _
  · intro gone same
    rw [holder?_collect consistent found member, if_pos (List.mem_singleton.1 same)]
  · intro kept different
    rw [holder?_collect consistent found member, if_neg]
    exact fun same => different (List.mem_singleton.2 same)

theorem removeAll_due (consistent : roster.Consistent) (other : SurfaceHandle) :
    (roster.surfaceHandles.map PolicyHook.removed).filter (·.surface = other) =
      callsDue roster roster.removeAll.state other := by
  apply removed_due consistent.nodup_surfaceHandles
  · intro handle member unheld
    obtain ⟨surface, found⟩ := consistent.mem_surfaceHandles_iff.1 member
    rw [consistent.holder?_eq_none_iff, found] at unheld
    contradiction
  · exact fun _ _ => holder?_removeAll
  · intro handle absent
    rw [holder?_removeAll]
    cases found : roster.surface? handle with
    | none => exact (consistent.holder?_eq_none_iff.2 found).symm
    | some surface => exact absurd (consistent.mem_surfaceHandles_iff.2 ⟨surface, found⟩) absent

end Roster

end AppLifecycle
