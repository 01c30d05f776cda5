import AppLifecycle.Coordinator

/-!
# Runs of the coordinator

A run starts from a fresh coordinator and handles one input after the other: reports of the
compositor, commands of the shell and calls to shut down, in any order and any number. What the
host says of its processes, whether its power backend succeeds, and in which order the registry is
searched, may differ from one input to the next. What holds at the start and survives each input
holds after every run.
-/

namespace AppLifecycle

/-- Something that a coordinator handles. -/
inductive Input where
  | event (event : CompositorEvent)
  | command (command : ShellCommand)
  /-- All sessions are to end. -/
  | shutdown
  deriving DecidableEq

/-- What is left open while one input is handled: the answers of the host, and the order in which
the registry is searched. -/
structure Surroundings where
  processes : ProcessTable
  power : PowerBackend
  walk : Registry.Walk

/-- An input with the surroundings in which it is handled. -/
structure Moment where
  input : Input
  surroundings : Surroundings

/-- The same setup in other surroundings. -/
def Setup.amid {π : Type} (setup : Setup π) (surroundings : Surroundings) : Setup π :=
  { setup with
    processes := surroundings.processes
    power := surroundings.power
    walk := surroundings.walk }

/-- What a setup is surrounded by from the start. -/
def Setup.surroundings {π : Type} (setup : Setup π) : Surroundings :=
  ⟨setup.processes, setup.power, setup.walk⟩

@[simp]
theorem Setup.amid_config {π : Type} (setup : Setup π) (surroundings : Surroundings) :
    (setup.amid surroundings).config = setup.config :=
  rfl

namespace Step

variable {σ β γ : Type}

theorem forEach_append (first second : List β) (visit : β → σ → Step σ Unit) (state : σ) :
    forEach (first ++ second) visit state =
      (forEach first visit state).andThen fun _ next => forEach second visit next := by
  induction first generalizing state with
  | nil => rfl
  | cons item rest ih =>
      simp only [List.cons_append, forEach, ih]
      rw [andThen_assoc]

theorem forEach_map (items : List γ) (image : γ → β) (visit : β → σ → Step σ Unit) (state : σ) :
    forEach (items.map image) visit state =
      forEach items (fun item => visit (image item)) state := by
  induction items generalizing state with
  | nil => rfl
  | cons item rest ih =>
      simp only [List.map_cons, forEach, ih]

/-- What each visit keeps of the effects so far and the state, a round of visits keeps. -/
theorem forEach_induction (Inv : List Effect → σ → Prop) {visit : β → σ → Step σ Unit}
    {items : List β}
    (visited : ∀ past state, ∀ item ∈ items, Inv past state →
      Inv (past ++ (visit item state).effects) (visit item state).state)
    {past : List Effect} {state : σ} (start : Inv past state) :
    Inv (past ++ (forEach items visit state).effects) (forEach items visit state).state := by
  induction items generalizing past state with
  | nil => simpa [forEach, quiet] using start
  | cons item rest ih =>
      have first := visited past state item (List.mem_cons_self ..) start
      have later := ih
        (fun past state other member => visited past state other (List.mem_cons_of_mem _ member))
        first
      simpa [forEach, andThen, List.append_assoc] using later

end Step

namespace Coordinator

variable {π : Type} (setup : Setup π)

/-- Handles one input. -/
def handleInput (input : Input) (state : Coordinator π) : Step (Coordinator π) Unit :=
  match input with
  | .event event => handleEvent setup event state
  | .command command => handleCommand setup command state
  | .shutdown => shutdown setup state

/-- Handles inputs one after the other, each in its own surroundings. -/
def follow (moments : List Moment) (state : Coordinator π) : Step (Coordinator π) Unit :=
  Step.forEach moments (fun moment => handleInput (setup.amid moment.surroundings) moment.input)
    state

theorem follow_append (earlier later : List Moment) (state : Coordinator π) :
    follow setup (earlier ++ later) state =
      (follow setup earlier state).andThen fun _ next => follow setup later next :=
  Step.forEach_append earlier later _ state

/-- The state that a run leads to. -/
def after (moments : List Moment) : Coordinator π :=
  (follow setup moments (start setup)).state

/-- What the world outside has seen by the end of a run. -/
def effectsOf (moments : List Moment) : List Effect :=
  (follow setup moments (start setup)).effects

@[simp]
theorem after_nil : after setup [] = start setup :=
  rfl

@[simp]
theorem effectsOf_nil : effectsOf setup [] = [] :=
  rfl

theorem after_concat (moments : List Moment) (last : Moment) :
    after setup (moments ++ [last]) =
      (handleInput (setup.amid last.surroundings) last.input (after setup moments)).state := by
  rw [after, follow, Step.forEach_append]
  rfl

theorem after_append (earlier later : List Moment) :
    after setup (earlier ++ later) = (follow setup later (after setup earlier)).state := by
  rw [after, follow_append]
  rfl

theorem effectsOf_concat (moments : List Moment) (last : Moment) :
    effectsOf setup (moments ++ [last]) =
      effectsOf setup moments ++
        (handleInput (setup.amid last.surroundings) last.input (after setup moments)).effects := by
  rw [effectsOf, follow, Step.forEach_append]
  simp [Step.andThen, Step.forEach, Step.quiet, effectsOf, after, follow]

/-- What the start satisfies and each input keeps, every run satisfies. -/
theorem run_induction (Inv : List Effect → Coordinator π → Prop) (base : Inv [] (start setup))
    (handled : ∀ past state (moment : Moment), Inv past state →
      Inv (past ++ (handleInput (setup.amid moment.surroundings) moment.input state).effects)
        (handleInput (setup.amid moment.surroundings) moment.input state).state)
    (moments : List Moment) : Inv (effectsOf setup moments) (after setup moments) := by
  have run : Inv ([] ++ (follow setup moments (start setup)).effects) (after setup moments) :=
    Step.forEach_induction Inv (fun past state moment _ => handled past state moment) base
  rwa [List.nil_append] at run

end Coordinator

end AppLifecycle
