import Mathlib.Data.List.Induction
import AppLifecycle.Proofs.Coordinator.Ending
import AppLifecycle.Proofs.Coordinator.Exemption
import AppLifecycle.Proofs.Host.Environ

/-!
# Which application a session belongs to

A new session belongs to the application that is reported, or else to that of a managed session of
the same process, or else to the one that the process was launched as; so no session is without
one (`applications_after`). The registry refers to managed sessions only. Whoever still holds a
session that has been removed therefore does not make the registry find it, and in whatever order
its references are walked, they lead to a managed session of the process if there is one.
-/

namespace AppLifecycle

namespace Roster

variable {roster : Roster} {pid : UInt32}

/-- No managed session belongs to the process. -/
def Alone (roster : Roster) (pid : UInt32) : Prop :=
  ∀ key session, roster.session? key = some session → session.pid ≠ pid

/-- What looking for a session of a process may come to: a managed one, and none only if there is
none. -/
def MayFind (roster : Roster) (pid : UInt32) : Option Session → Prop
  | some session => (∃ key, roster.session? key = some session) ∧ session.pid = pid
  | none => roster.Alone pid

variable (consistent : roster.Consistent)
include consistent

/-- The registry refers to the managed sessions, by their handles. -/
theorem Consistent.mem_references_iff {key : SessionHandle} :
    key ∈ roster.registry.entries.values ↔ ∃ session, roster.session? key = some session := by
  rw [KeyMap.mem_values_iff]
  constructor
  · rintro ⟨other, entered⟩
    rw [consistent.registered, Option.map_eq_some_iff] at entered
    obtain ⟨session, found, rfl⟩ := entered
    exact ⟨session, found⟩
  · rintro ⟨session, found⟩
    exact ⟨key, by rw [consistent.registered, found, Option.map_some]⟩

/-- Looking for a session of a process among the references of the registry, in whatever order they
are entered and walked, comes to a managed session if there is one. Sessions that are gone from the
roster do not count, even if somebody still holds them. -/
theorem Consistent.mayFind {registry : Registry SessionHandle}
    (same : registry.entries.values.Perm roster.registry.entries.values) (walk : Registry.Walk)
    (elsewhere : SessionHandle → Option Session) (pid : UInt32) :
    roster.MayFind pid (registry.findWhere? walk
      (fun key => (roster.session? key).or (elsewhere key)) fun session => session.pid == pid) := by
  have referred (key : SessionHandle) :
      key ∈ registry.entries.values ↔ ∃ session, roster.session? key = some session :=
    same.mem_iff.trans consistent.mem_references_iff
  cases result : registry.findWhere? walk (fun key => (roster.session? key).or (elsewhere key))
      fun session => session.pid == pid with
  | some session =>
      obtain ⟨belongs, handle, entered⟩ := Registry.find?_of_findWhere? result
      obtain ⟨key, under, resolved⟩ := Option.bind_eq_some_iff.1 entered
      obtain ⟨managed, found⟩ := (referred key).1 (KeyMap.mem_values_iff.2 ⟨handle, under⟩)
      rw [found, Option.some_or, Option.some.injEq] at resolved
      subst resolved
      exact ⟨⟨key, found⟩, eq_of_beq belongs⟩
  | none =>
      intro key session found belongs
      obtain ⟨handle, under⟩ := KeyMap.mem_values_iff.1 ((referred key).2 ⟨session, found⟩)
      have entered : registry.find? (fun key => (roster.session? key).or (elsewhere key)) handle =
          some session := by
        rw [Registry.find?, under, Option.bind_some, found, Option.some_or]
      have missed := Registry.findWhere?_eq_none_iff.1 result handle session entered
      exact absurd (beq_iff_eq.2 belongs) (Bool.not_eq_true _ ▸ missed)

theorem Consistent.mayFind_findByPid? (pid : UInt32) (walk : Registry.Walk) :
    roster.MayFind pid (roster.findByPid? pid walk) := by
  have found := consistent.mayFind (.refl _) walk (fun _ => none) pid
  simp only [Option.or_none] at found
  exact found

end Roster

theorem Input.opening?_eq_some_iff {input : Input} {key : SessionHandle} :
    input.opening? = some key ↔
      ∃ pid reported, input = .event (.sessionCreated key pid reported) := by
  constructor
  · intro opening
    cases input with
    | event event => cases event <;> simp_all [Input.opening?]
    | command | shutdown => contradiction
  · rintro ⟨pid, reported, rfl⟩
    rfl

namespace Coordinator

variable {π : Type} {setup : Setup π} {state : Coordinator π} {input : Input}
  {key : SessionHandle} {pid : UInt32} {reported appId : String}

/-- Where the application of a new session of a process is taken from, given what is reported. -/
inductive Named (processes : ProcessTable) (roster : Roster) (pid : UInt32) :
    String → String → Prop where
  | reported {appId : String} (nonempty : appId ≠ "") : Named processes roster pid appId appId
  | sibling {key : SessionHandle} {session : Session} (found : roster.session? key = some session)
      (belongs : session.pid = pid) : Named processes roster pid "" session.appId
  | launched {environ : List UInt8} {appId : String} (alone : roster.Alone pid)
      (readable : processes.environ pid = some environ) (launched : Host.LaunchedAs environ appId) :
      Named processes roster pid "" appId
  | unknown (alone : roster.Alone pid)
      (untold : ∀ environ appId, processes.environ pid = some environ →
        ¬ Host.LaunchedAs environ appId) : Named processes roster pid "" "unknown"

theorem launchedAppId?_eq_some_iff {processes : ProcessTable} :
    processes.launchedAppId? pid = some appId ↔
      ∃ environ, processes.environ pid = some environ ∧ Host.LaunchedAs environ appId := by
  simp only [ProcessTable.launchedAppId?, Option.bind_eq_some_iff,
    Host.appIdOfEnviron?_eq_some_iff]

theorem resolveAppId_named (setup : Setup π) {roster : Roster} (consistent : roster.Consistent)
    (pid : UInt32) (reported : String) :
    Named setup.processes roster pid reported (resolveAppId setup pid reported roster) := by
  unfold resolveAppId
  by_cases empty : reported = ""
  · subst empty
    rw [if_pos (by simp)]
    have sought := consistent.mayFind_findByPid? pid setup.walk
    cases sibling : roster.findByPid? pid setup.walk with
    | some session =>
        rw [sibling] at sought
        obtain ⟨⟨key, found⟩, belongs⟩ := sought
        exact .sibling found belongs
    | none =>
        rw [sibling] at sought
        cases told : setup.processes.launchedAppId? pid with
        | some appId =>
            obtain ⟨environ, readable, launched⟩ := launchedAppId?_eq_some_iff.1 told
            exact .launched sought readable launched
        | none =>
            refine .unknown sought fun environ appId readable launched => ?_
            rw [launchedAppId?_eq_some_iff.2 ⟨environ, readable, launched⟩] at told
            contradiction
  · rw [if_neg (by simpa using empty)]
    exact .reported empty

/-- No session is without an application. -/
def AllNamed (roster : Roster) : Prop :=
  ∀ key session, roster.session? key = some session → session.appId ≠ ""

/-- Whichever sibling an application is taken from, it has one. -/
theorem Named.ne_empty {processes : ProcessTable} {roster : Roster}
    (named : Named processes roster pid reported appId) (all : AllNamed roster) : appId ≠ "" := by
  cases named with
  | reported nonempty => exact nonempty
  | sibling found => exact all _ _ found
  | launched _ _ launched => exact launched.ne_empty
  | unknown => decide

/-! ## Inputs -/

theorem handleInput_sessionCreated (absent : state.roster.session? key = none) (pid : UInt32)
    (reported : String) :
    handleInput setup (.event (.sessionCreated key pid reported)) state =
      ⟨{ state with
          roster := state.roster.enroll key pid (resolveAppId setup pid reported state.roster) }, (),
        [.notify (.sessionAdded key (resolveAppId setup pid reported state.roster))]⟩ := by
  change ((state.roster.addSession key pid _).within _).answering () = _
  rw [Roster.addSession_of_absent absent]
  rfl

/-- Only a session that is reported is new, and the others stay with their applications. -/
theorem handleInput_allNamed (setup : Setup π) (consistent : state.roster.Consistent)
    (all : AllNamed state.roster) (input : Input) :
    AllNamed (handleInput setup input state).state.roster := by
  intro key session found
  have turn := handleInput_careerTurn consistent setup input key
  rw [Roster.career?, Roster.career?, found] at turn
  cases before : state.roster.session? key with
  | some former =>
      rw [before] at turn
      have kept : session.appId = former.appId := turn.appId
      rw [kept]
      exact all key former before
  | none =>
      have opening : input.opening? = some key := by
        by_contra unreported
        have absent := handleInput_absent setup consistent unreported
          (Roster.state?_eq_none_iff.2 before)
        rw [Roster.state?_eq_none_iff.1 absent] at found
        contradiction
      obtain ⟨pid, reported, rfl⟩ := Input.opening?_eq_some_iff.1 opening
      have enrolled : (state.roster.enroll key pid
          (resolveAppId setup pid reported state.roster)).session? key = some session := by
        rw [← found, handleInput_sessionCreated before]
      rw [Roster.session?_enroll, if_pos rfl, Option.some.injEq] at enrolled
      rw [← enrolled]
      exact (resolveAppId_named setup consistent pid reported).ne_empty all

/-! ## Runs -/

theorem after_allNamed (setup : Setup π) (moments : List Moment) :
    AllNamed (after setup moments).roster := by
  induction moments using List.reverseRecOn with
  | nil =>
      intro key session found
      simp [start, Roster.session?, Roster.empty] at found
  | append_singleton moments last ih =>
      rw [after_concat]
      exact handleInput_allNamed _ (after_consistent setup moments) ih last.input

/-- Applications after any run, and thus after each input of a run: every managed session has one;
a session that is reported next, unless there is one of its handle, comes up with the application
that is reported, or else that of a managed session of its process, or else the first one that the
environment of its process names, or else the unknown one; and sessions that are not managed any
more are not found for a process, even if somebody still holds them and in whatever order the
registry is searched. -/
theorem applications_after (setup : Setup π) (moments : List Moment) :
    let state := after setup moments
    (∀ key session, state.roster.session? key = some session → session.appId ≠ "") ∧
    (∀ surroundings key pid reported, state.roster.session? key = none →
      ∃ appId session, Named surroundings.processes state.roster pid reported appId ∧
        (after setup (moments ++ [⟨.event (.sessionCreated key pid reported), surroundings⟩])
          ).roster.session? key = some session ∧ session = Session.create key pid appId ∧
        session.handle = key ∧ session.pid = pid ∧ session.appId = appId) ∧
    (∀ (walk : Registry.Walk) (registry : Registry SessionHandle)
      (elsewhere : SessionHandle → Option Session) pid,
      registry.entries.values.Perm state.roster.registry.entries.values →
        state.roster.MayFind pid (registry.findWhere? walk
          (fun key => (state.roster.session? key).or (elsewhere key))
          fun session => session.pid == pid)) := by
  intro state
  have consistent : state.roster.Consistent := after_consistent setup moments
  refine ⟨after_allNamed setup moments, ?_, fun walk registry elsewhere pid same =>
    consistent.mayFind same walk elsewhere pid⟩
  intro surroundings key pid reported absent
  refine ⟨_, _, resolveAppId_named (setup.amid surroundings) consistent pid reported, ?_, rfl, rfl,
    rfl, rfl⟩
  rw [after_concat, handleInput_sessionCreated absent]
  exact Roster.session?_enroll.trans (if_pos rfl)

end Coordinator

end AppLifecycle
