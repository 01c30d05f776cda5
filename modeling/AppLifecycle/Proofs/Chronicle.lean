import Mathlib.Data.List.Induction
import AppLifecycle.Proofs.Run

/-!
# The past of a run

The chronicle of a run tells input by input what the world outside saw of it, so that one can say
which input had which effects. A property of the past of the form "it was once so, and nothing
has put an end to it since" is a `Lasts`; one further input renews it, ends it or lets it last
(`lasts_concat`).
-/

namespace AppLifecycle

/-- An input with what the world outside saw of it. -/
structure Chapter where
  input : Input
  effects : List Effect

namespace Coordinator

variable {π : Type} (setup : Setup π)

/-! ## What each input led to -/

/-- The chapters that inputs add to a run that has come to a state. -/
def chronicleFrom (moments : List Moment) (state : Coordinator π) : List Chapter :=
  match moments with
  | [] => []
  | moment :: rest =>
      let step := handleInput (setup.amid moment.surroundings) moment.input state
      ⟨moment.input, step.effects⟩ :: chronicleFrom rest step.state

/-- The chapters of a run, one for each input. -/
def chronicle (moments : List Moment) : List Chapter :=
  chronicleFrom setup moments (start setup)

@[simp]
theorem chronicle_nil : chronicle setup [] = [] :=
  rfl

private theorem chronicleFrom_append (first second : List Moment) (state : Coordinator π) :
    chronicleFrom setup (first ++ second) state =
      chronicleFrom setup first state ++
        chronicleFrom setup second (follow setup first state).state := by
  induction first generalizing state with
  | nil => rfl
  | cons moment rest ih => exact congrArg (List.cons _) (ih _)

theorem chronicle_concat (moments : List Moment) (last : Moment) :
    chronicle setup (moments ++ [last]) =
      chronicle setup moments ++
        [⟨last.input,
          (handleInput (setup.amid last.surroundings) last.input (after setup moments)).effects⟩] :=
  chronicleFrom_append setup moments [last] (start setup)

/-- The chapters make up what the world outside has seen. -/
theorem effects_chronicle (moments : List Moment) :
    (chronicle setup moments).flatMap (·.effects) = effectsOf setup moments := by
  induction moments using List.reverseRecOn with
  | nil => rfl
  | append_singleton moments last ih =>
      rw [chronicle_concat, List.flatMap_append, ih, effectsOf_concat]
      simp

/-- What the start satisfies and each input keeps as it adds its chapter, every run satisfies. -/
theorem chronicle_induction (Inv : List Chapter → Coordinator π → Prop)
    (base : Inv [] (start setup))
    (handled : ∀ past state (moment : Moment), Inv past state →
      Inv
        (past ++ [⟨moment.input,
          (handleInput (setup.amid moment.surroundings) moment.input state).effects⟩])
        (handleInput (setup.amid moment.surroundings) moment.input state).state)
    (moments : List Moment) : Inv (chronicle setup moments) (after setup moments) := by
  induction moments using List.reverseRecOn with
  | nil => exact base
  | append_singleton moments last ih =>
      rw [chronicle_concat, after_concat]
      exact handled _ _ last ih

/-! ## What has lasted -/

/-- Some state of a run had a property, and each input since then has kept up what is asked of
the states before and after it. -/
def Lasts (Begun : Coordinator π → Prop) (Kept : Coordinator π → Coordinator π → Prop)
    (moments : List Moment) : Prop :=
  ∃ begin ≤ moments.length, Begun (after setup (moments.take begin)) ∧
    ∀ later, begin ≤ later → later < moments.length →
      Kept (after setup (moments.take later)) (after setup (moments.take (later + 1)))

variable {setup} {Begun : Coordinator π → Prop} {Kept : Coordinator π → Coordinator π → Prop}

theorem lasts_nil : Lasts setup Begun Kept [] ↔ Begun (start setup) := by
  constructor
  · rintro ⟨begin, within, begun, _⟩
    rwa [List.take_nil] at begun
  · intro begun
    exact ⟨0, Nat.le_refl _, begun, fun later _ inside => absurd inside (Nat.not_lt_zero later)⟩

/-- After one more input it has lasted if it begins now, or had lasted and is kept up. -/
theorem lasts_concat (moments : List Moment) (last : Moment) :
    Lasts setup Begun Kept (moments ++ [last]) ↔
      Begun (after setup (moments ++ [last])) ∨
        (Lasts setup Begun Kept moments ∧
          Kept (after setup moments) (after setup (moments ++ [last]))) := by
  have earlier {count : Nat} (within : count ≤ moments.length) :
      (moments ++ [last]).take count = moments.take count :=
    List.take_append_of_le_length within
  have whole : (moments ++ [last]).take (moments.length + 1) = moments ++ [last] :=
    List.take_of_length_le (by simp)
  constructor
  · rintro ⟨begin, within, begun, since⟩
    rw [List.length_append, List.length_singleton] at within since
    rcases Nat.lt_or_eq_of_le within with before | equal
    · have before : begin ≤ moments.length := by omega
      have step := since moments.length before (by omega)
      rw [earlier (Nat.le_refl _), List.take_length, whole] at step
      rw [earlier before] at begun
      refine .inr ⟨⟨begin, before, begun, fun later since_ inside => ?_⟩, step⟩
      have kept := since later since_ (by omega)
      rwa [earlier (by omega), earlier (by omega)] at kept
    · rw [equal, whole] at begun
      exact .inl begun
  · rintro (begun | ⟨⟨begin, within, begun, since⟩, step⟩)
    · refine ⟨moments.length + 1, by simp, by rw [whole]; exact begun,
        fun later since_ inside => ?_⟩
      rw [List.length_append, List.length_singleton] at inside
      omega
    · refine ⟨begin, by simp; omega, by rw [earlier within]; exact begun,
        fun later since_ inside => ?_⟩
      rw [List.length_append, List.length_singleton] at inside
      rcases Nat.lt_or_eq_of_le (Nat.le_of_lt_succ inside) with before | equal
      · rw [earlier (by omega), earlier (by omega)]
        exact since later since_ before
      · rw [equal, whole, earlier (Nat.le_refl _), List.take_length]
        exact step

end Coordinator

end AppLifecycle
