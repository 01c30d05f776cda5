import AppLifecycle.Proofs.Json.Trailing
import AppLifecycle.Proofs.Script

/-!
# Scripts put together from parts

A script that is put together from two with a newline between them holds the steps of the one and
then those of the other, and goes wrong where its parts do (`script_joined`). This comes down to
lines: a script goes wrong at its first line that is neither skipped nor a step. At the seam a line
may lose a carriage return from its end, which changes nothing but the reason why it is no step.
-/

namespace AppLifecycle

open Json (ReadError Stable readDocument)

namespace Text

/-- As many lines as newlines and one more. -/
theorem length_lines (text : List Char) : (lines text).length = text.count '\n' + 1 := by
  have consLine_length (c : Char) (all : List (List Char)) (some : all ≠ []) :
      (consLine c all).length = all.length := by
    cases all with
    | nil => contradiction
    | cons line rest => rfl
  fun_induction lines text with
  | case1 => rfl
  | case2 rest ih => simp [ih]
  | case3 rest ih => simp [ih]
  | case4 c rest notNewline notEnd ih =>
      have nonempty : lines rest ≠ [] := List.ne_nil_of_length_eq_add_one ih
      rw [consLine_length c _ nonempty, ih, List.count_cons_of_ne]
      exact notNewline

/-- The last line of a text before a newline: it loses a carriage return if it ends in one. -/
structure Seam (text : List Char) (former : List (List Char)) (last seen : List Char) : Prop where
  alone : lines text = former ++ [last]
  joined : ∀ rest, lines (text ++ '\n' :: rest) = former ++ seen :: lines rest
  ending : last = seen ∨ (last = seen ++ ['\r'] ∧ text.getLast? = some '\r')

theorem getLast?_cons_of_some {c d : Char} {rest : List Char} (ends : rest.getLast? = some d) :
    (c :: rest).getLast? = some d := by
  rw [List.getLast?_cons, ends, Option.getD_some]

theorem exists_seam (text : List Char) : ∃ former last seen, Seam text former last seen := by
  induction text using lines.induct with
  | case1 => exact ⟨[], [], [], rfl, fun _ => rfl, .inl rfl⟩
  | case2 rest ih =>
      obtain ⟨former, last, seen, seam⟩ := ih
      refine ⟨[] :: former, last, seen, ?_, fun tail => ?_, ?_⟩
      · rw [lines, seam.alone, List.cons_append]
      · rw [List.cons_append, lines, seam.joined, List.cons_append]
      · exact seam.ending.imp_right (And.imp_right getLast?_cons_of_some)
  | case3 rest ih =>
      obtain ⟨former, last, seen, seam⟩ := ih
      refine ⟨[] :: former, last, seen, ?_, fun tail => ?_, ?_⟩
      · rw [lines, seam.alone, List.cons_append]
      · rw [List.cons_append, List.cons_append, lines, seam.joined, List.cons_append]
      · exact seam.ending.imp_right
          (And.imp_right (getLast?_cons_of_some ∘ getLast?_cons_of_some))
  | case4 c rest notNewline notEnd ih =>
      by_cases lone : c = '\r' ∧ rest = []
      · obtain ⟨rfl, rfl⟩ := lone
        exact ⟨[], ['\r'], [], rfl, fun _ => rfl, .inr ⟨rfl, rfl⟩⟩
      obtain ⟨former, last, seen, seam⟩ := ih
      have separate (tail later : List Char) (returned : c = '\r') :
          rest ++ '\n' :: tail ≠ '\n' :: later := by
        intro equal
        cases rest with
        | nil => exact lone ⟨returned, rfl⟩
        | cons d rest => exact notEnd rest returned ((List.cons.inj equal).1 ▸ rfl)
      have alone : lines (c :: rest) = consLine c (former ++ [last]) := by
        rw [lines_cons notNewline notEnd, seam.alone]
      have joined (tail : List Char) :
          lines (c :: rest ++ '\n' :: tail) = consLine c (former ++ seen :: lines tail) := by
        rw [List.cons_append, lines_cons notNewline (separate tail), seam.joined]
      cases former with
      | nil =>
          refine ⟨[], c :: last, c :: seen, alone, joined, ?_⟩
          exact seam.ending.imp (congrArg (c :: ·))
            (And.imp (congrArg (c :: ·)) getLast?_cons_of_some)
      | cons first former =>
          refine ⟨(c :: first) :: former, last, seen, alone, joined, ?_⟩
          exact seam.ending.imp_right (And.imp_right getLast?_cons_of_some)

end Text

namespace Script

open Text (lines)

/-! ## Lines one after the other -/

/-- The step on a line, if it is not skipped. -/
def lineSteps (line : List Char) : Except ReadError (List ScriptStep) :=
  if isSkipped line then .ok [] else (readDocument ScriptStep.read line).map ([·])

/-- What is found on further lines. -/
def following (number : Nat) (rest : List (List Char)) (steps : List ScriptStep) :
    Except ScriptError (List ScriptStep) :=
  (parseLines number rest).map (steps ++ ·)

theorem following_nil (number : Nat) (rest : List (List Char)) :
    following number rest [] = parseLines number rest := by
  rw [following]
  cases parseLines number rest <;> rfl

theorem parseLines_cons (number : Nat) (line : List Char) (rest : List (List Char)) :
    parseLines number (line :: rest) =
      (lineSteps line).mapError (⟨number, ·⟩) >>= following (number + 1) rest := by
  rw [parseLines, lineSteps]
  split
  · exact (following_nil _ _).symm
  · cases readDocument ScriptStep.read line <;> rfl

theorem parseLines_append (number : Nat) (first second : List (List Char)) :
    parseLines number (first ++ second) =
      parseLines number first >>= following (number + first.length) second := by
  induction first generalizing number with
  | nil => exact (following_nil _ _).symm
  | cons line first ih =>
      have later : number + (line :: first).length = number + 1 + first.length := by
        rw [List.length_cons]
        omega
      rw [List.cons_append, parseLines_cons, parseLines_cons, later]
      cases lineSteps line with
      | error why => rfl
      | ok steps =>
          change following (number + 1) (first ++ second) steps =
            following (number + 1) first steps >>= following (number + 1 + first.length) second
          rw [following, ih, following]
          cases parseLines (number + 1) first with
          | error error => rfl
          | ok more =>
              change (following _ second more).map (steps ++ ·) = following _ second (steps ++ more)
              rw [following, following]
              cases parseLines (number + 1 + first.length) second with
              | error error => rfl
              | ok last => exact congrArg Except.ok (List.append_assoc ..).symm

/-- A script that stands further down goes wrong further down. -/
theorem parseLines_add (number shift : Nat) (all : List (List Char)) :
    parseLines (number + shift) all =
      (parseLines number all).mapError fun error => { error with line := error.line + shift } := by
  induction all generalizing number with
  | nil => rfl
  | cons line rest ih =>
      have later : number + shift + 1 = number + 1 + shift := by omega
      rw [parseLines_cons, parseLines_cons, later]
      cases lineSteps line with
      | error why => rfl
      | ok steps =>
          change following (number + 1 + shift) rest steps =
            (following (number + 1) rest steps).mapError _
          rw [following, ih, following]
          cases parseLines (number + 1) rest <;> rfl

/-! ## The seam -/

/-- A carriage return at the end of a line does not matter to the step on it, but for the reason
why there is none. -/
theorem lineSteps_stable (line : List Char) :
    Stable id (lineSteps line) (lineSteps (line ++ ['\r'])) := by
  rw [lineSteps, lineSteps, isSkipped_append_return]
  split
  · exact .found []
  · exact (Json.readDocument_choice_stable rfl _ _ line).map fun _ => rfl

theorem parseLines_singleton (number : Nat) (line : List Char) :
    parseLines number [line] = (lineSteps line).mapError (⟨number, ·⟩) := by
  rw [parseLines_cons]
  cases lineSteps line with
  | error why => rfl
  | ok steps => exact congrArg Except.ok (List.append_nil steps)

section Seam

variable {text : List Char} {former : List (List Char)} {last seen : List Char}
  (seam : Text.Seam text former last seen)
include seam

/-- What comes before the seam comes to the same as on its own, but for the reason why the line at
the seam is no step. -/
theorem parseLines_seam (number : Nat) :
    (∀ steps, parseLines number (lines text) = .ok steps →
      parseLines number (former ++ [seen]) = .ok steps) ∧
    ∀ error, parseLines number (lines text) = .error error →
      ∃ cause, parseLines number (former ++ [seen]) = .error ⟨error.line, cause⟩ ∧
        (text.getLast? ≠ some '\r' → cause = error.cause) := by
  rw [seam.alone]
  rcases seam.ending with rfl | ⟨rfl, returned⟩
  · exact ⟨fun _ => id, fun error fails => ⟨error.cause, fails, fun _ => rfl⟩⟩
  · rw [parseLines_append, parseLines_append]
    cases parseLines number former with
    | error error =>
        refine ⟨nofun, fun other fails => ?_⟩
        cases fails
        exact ⟨error.cause, rfl, fun _ => rfl⟩
    | ok steps =>
        change (∀ all, following _ _ steps = .ok all → following _ _ steps = .ok all) ∧
          ∀ error, following _ _ steps = .error error →
            ∃ cause, following _ _ steps = .error ⟨error.line, cause⟩ ∧ _
        rw [following, following, parseLines_singleton, parseLines_singleton]
        have stable := lineSteps_stable seen
        generalize lineSteps seen = first, lineSteps (seen ++ ['\r']) = second at stable ⊢
        cases stable with
        | found more => exact ⟨fun _ => id, nofun⟩
        | lost why later =>
            refine ⟨nofun, fun error fails => ?_⟩
            cases fails
            exact ⟨why, rfl, fun other => absurd returned other⟩

/-- What comes behind the seam comes after all that is before it. -/
theorem parse_joined (rest : List Char) :
    parse (text ++ '\n' :: rest) =
      parseLines 1 (former ++ [seen]) >>=
        following (1 + (text.count '\n' + 1)) (lines rest) := by
  have length : (former ++ [seen]).length = text.count '\n' + 1 := by
    rw [← Text.length_lines, seam.alone, List.length_append, List.length_append]
    rfl
  rw [parse, seam.joined, ← length, ← parseLines_append, List.append_assoc, List.singleton_append]

end Seam

/-! ## The first line that is no step -/

theorem parseLines_eq_ok_iff (number : Nat) (all : List (List Char)) (steps : List ScriptStep) :
    parseLines number all = .ok steps ↔
      (all.filter (!isSkipped ·)).map (readDocument ScriptStep.read) = steps.map .ok := by
  induction all generalizing number steps with
  | nil => cases steps <;> simp [parseLines]
  | cons line rest ih =>
      rw [parseLines]
      cases skipped : isSkipped line with
      | true => simpa [skipped] using ih (number + 1) steps
      | false =>
          simp only [Bool.false_eq_true, if_false, List.filter_cons, skipped, Bool.not_false,
            if_true, List.map_cons]
          cases readDocument ScriptStep.read line with
          | error why => cases steps <;> simp
          | ok step =>
              cases steps with
              | nil => cases parseLines (number + 1) rest <;> simp [Except.map]
              | cons head steps =>
                  rw [List.map_cons, List.cons.injEq, ← ih (number + 1) steps]
                  cases parseLines (number + 1) rest <;> simp [Except.map]

/-- What is told of lines that are not all skipped or steps is the first that is neither. -/
def GoesWrong (number : Nat) (all : List (List Char)) (error : ScriptError) : Prop :=
  ∃ earlier line rest, all = earlier ++ line :: rest ∧ error.line = number + earlier.length ∧
    isSkipped line = false ∧ readDocument ScriptStep.read line = .error error.cause ∧
    ∀ former ∈ earlier, isSkipped former = false →
      ∃ step, readDocument ScriptStep.read former = .ok step

section GoesWrong

variable {number : Nat} {first : List Char} {all : List (List Char)} {error : ScriptError}

theorem not_goesWrong_nil : ¬ GoesWrong number [] error :=
  fun ⟨_, _, _, parts, _⟩ => absurd parts (by simp)

/-- A line that is skipped or a step only counts. -/
theorem goesWrong_cons_of_passed
    (passed : isSkipped first = false → ∃ step, readDocument ScriptStep.read first = .ok step) :
    GoesWrong number (first :: all) error ↔ GoesWrong (number + 1) all error := by
  constructor
  · rintro ⟨_ | ⟨_, earlier⟩, line, rest, parts, place, counted, why, steps⟩
    · obtain ⟨rfl, rfl⟩ := List.cons.inj parts
      obtain ⟨step, read⟩ := passed counted
      exact absurd (why.symm.trans read) nofun
    · obtain ⟨rfl, rfl⟩ := List.cons.inj parts
      refine ⟨earlier, line, rest, rfl, ?_, counted, why, (List.forall_mem_cons.mp steps).2⟩
      rw [place, List.length_cons]
      omega
  · rintro ⟨earlier, line, rest, rfl, place, counted, why, steps⟩
    refine ⟨first :: earlier, line, rest, rfl, ?_, counted, why,
      List.forall_mem_cons.mpr ⟨passed, steps⟩⟩
    rw [place, List.length_cons]
    omega

/-- Behind a line that is neither, nothing matters. -/
theorem goesWrong_cons_of_failed {cause : ReadError} (counted : isSkipped first = false)
    (failed : readDocument ScriptStep.read first = .error cause) :
    GoesWrong number (first :: all) error ↔ error = ⟨number, cause⟩ := by
  constructor
  · rintro ⟨_ | ⟨_, earlier⟩, line, rest, parts, place, _, why, steps⟩
    · obtain ⟨rfl, rfl⟩ := List.cons.inj parts
      have same : cause = error.cause := Except.error.inj (failed.symm.trans why)
      have here : number = error.line := place.symm
      rw [same, here]
    · obtain ⟨rfl, rfl⟩ := List.cons.inj parts
      obtain ⟨step, read⟩ := (List.forall_mem_cons.mp steps).1 counted
      exact absurd (failed.symm.trans read) nofun
  · rintro rfl
    exact ⟨[], first, all, rfl, rfl, counted, failed, nofun⟩

end GoesWrong

theorem parseLines_eq_error_iff (number : Nat) (all : List (List Char)) (error : ScriptError) :
    parseLines number all = .error error ↔ GoesWrong number all error := by
  induction all generalizing number with
  | nil => simp [parseLines, not_goesWrong_nil]
  | cons first all ih =>
      rw [parseLines]
      cases counted : isSkipped first with
      | true =>
          have passed (other : isSkipped first = false) :
              ∃ step, readDocument ScriptStep.read first = .ok step :=
            Bool.noConfusion (counted.symm.trans other)
          rw [goesWrong_cons_of_passed passed, ← ih]
          rfl
      | false =>
          cases read : readDocument ScriptStep.read first with
          | ok step =>
              rw [goesWrong_cons_of_passed fun _ => ⟨step, read⟩, ← ih]
              cases parseLines (number + 1) all <;> simp [Except.map]
          | error cause =>
              rw [goesWrong_cons_of_failed counted read]
              exact ⟨fun fails => (Except.error.inj fails).symm, fun is => is ▸ rfl⟩

end Script

end AppLifecycle
