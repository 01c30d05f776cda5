/-!
# Command-line arguments

Two commands take the arguments: `replay` runs a script, `check-config` prints a configuration.
Options may stand anywhere among the arguments of a command; after `--` nothing is an option.
Arguments are judged from left to right, so a call for help counts only if no mistake stands
before it.
-/

namespace AppLifecycle

/-- What to do. -/
inductive Command where
  /-- Run a script and print what the shell would see. -/
  | replay (script : String) (config : Option String) (throttle : Bool) (exempt : List String)
  /-- Print a configuration with all its fields. -/
  | checkConfig (file : String)
  deriving DecidableEq, Inhabited, Repr

/-- What the arguments ask for. -/
structure Invocation where
  /-- How much to log. -/
  verbose : Nat
  command : Command
  deriving DecidableEq, Inhabited, Repr

/-- Why arguments name no command. -/
inductive Refusal where
  | help
  | version
  | misuse
  deriving DecidableEq, Inhabited, Repr

namespace Refusal

/-- The exit code: a call for help or for the version is no mistake. -/
def exitCode : Refusal → Nat
  | help => 0
  | version => 0
  | misuse => 2

end Refusal

namespace Arguments

/-- What an argument is by its form. -/
inductive Form where
  | positional (text : String)
  /-- One or more one-letter options. -/
  | letters (options : List Char)
  /-- An option with a name, perhaps with a value attached. -/
  | named (name : String) (value : Option String)
  /-- The end of the options. -/
  | separator
  deriving DecidableEq, Inhabited, Repr

/-- The name and the value of an option, parted at the first equals sign. -/
def partAtEquals (text : List Char) : String × Option String :=
  let name := String.ofList (text.takeWhile (· ≠ '='))
  match text.dropWhile (· ≠ '=') with
  | [] => (name, none)
  | _ :: value => (name, some (String.ofList value))

/-- The form of an argument. A single hyphen is not an option. -/
def formOf (argument : String) : Form :=
  match argument.toList with
  | ['-', '-'] => .separator
  | '-' :: '-' :: text => .named (partAtEquals text).1 (partAtEquals text).2
  | '-' :: c :: letters => .letters (c :: letters)
  | _ => .positional argument

/-- The largest count of an option. -/
def countLimit : Nat :=
  255

/-- Counts an option once more. -/
def countUp (count : Nat) : Nat :=
  min (count + 1) countLimit

/-- Counts the letter `v`; all levels know it, and a call for help. -/
def countLetters (knowsVersion : Bool) (count : Nat) : List Char → Except Refusal Nat
  | [] => .ok count
  | c :: rest =>
      if c = 'v' then countLetters knowsVersion (countUp count) rest
      else if c = 'h' then .error .help
      else if c = 'V' ∧ knowsVersion then .error .version
      else .error .misuse

/-- Takes an option without a value. -/
def withoutValue {α : Type} (value : Option String) (result : Except Refusal α) :
    Except Refusal α :=
  if value.isSome then .error .misuse else result

/-- The value of an option: attached, or else the next argument, if that has not the form of an
option. -/
def valueOf (attached : Option String) (rest : List String) :
    Except Refusal (String × List String) :=
  match attached, rest with
  | some value, _ => .ok (value, rest)
  | none, [] => .error .misuse
  | none, next :: rest =>
      match formOf next with
      | .positional value => .ok (value, rest)
      | _ => .error .misuse

theorem length_valueOf_le {attached : Option String} {rest : List String}
    {result : String × List String} (h : valueOf attached rest = .ok result) :
    result.2.length ≤ rest.length := by
  unfold valueOf at h
  split at h
  · cases h
    exact Nat.le_refl _
  · cases h
  · split at h
    · cases h
      simp
    · cases h

/-- The arguments of `replay` that have been taken. -/
structure ReplayDraft where
  verbose : Nat := 0
  script : Option String := none
  config : Option String := none
  throttle : Bool := false
  exempt : List String := []

namespace ReplayDraft

/-- Takes a path, which is not empty and is given once. -/
def takePath (taken : Option String) (path : String) : Except Refusal (Option String) :=
  if taken.isSome ∨ path.isEmpty then .error .misuse else .ok (some path)

/-- Takes the script. -/
def takeScript (draft : ReplayDraft) (path : String) : Except Refusal ReplayDraft := do
  return { draft with script := ← takePath draft.script path }

/-- Takes the configuration file. -/
def takeConfig (draft : ReplayDraft) (path : String) : Except Refusal ReplayDraft := do
  return { draft with config := ← takePath draft.config path }

/-- Takes the wish to throttle, which is uttered once. -/
def takeThrottle (draft : ReplayDraft) : Except Refusal ReplayDraft :=
  if draft.throttle then .error .misuse else .ok { draft with throttle := true }

/-- Takes an application that is exempt. -/
def takeExempt (draft : ReplayDraft) (appId : String) : ReplayDraft :=
  { draft with exempt := draft.exempt ++ [appId] }

/-- What has been asked for in the end. -/
def finish (draft : ReplayDraft) : Except Refusal (Nat × Command) :=
  match draft.script with
  | some script => .ok (draft.verbose, .replay script draft.config draft.throttle draft.exempt)
  | none => .error .misuse

end ReplayDraft

/-- Takes the arguments of `replay`. -/
def replay (draft : ReplayDraft) : List String → Except Refusal (Nat × Command)
  | [] => draft.finish
  | argument :: rest =>
      match formOf argument with
      | .separator => do
          let draft ← rest.foldlM ReplayDraft.takeScript draft
          draft.finish
      | .positional path => do
          let next ← draft.takeScript path
          replay next rest
      | .letters letters => do
          let count ← countLetters false draft.verbose letters
          replay { draft with verbose := count } rest
      | .named name value =>
          if name = "help" then withoutValue value (.error .help)
          else if name = "verbose" then
            withoutValue value (replay { draft with verbose := countUp draft.verbose } rest)
          else if name = "throttle" then
            withoutValue value (draft.takeThrottle.bind fun next => replay next rest)
          else if name = "config" then
            match _ : valueOf value rest with
            | .ok (path, rest) => do
                let next ← draft.takeConfig path
                replay next rest
            | .error refusal => .error refusal
          else if name = "exempt" then
            match _ : valueOf value rest with
            | .ok (appId, rest) => replay (draft.takeExempt appId) rest
            | .error refusal => .error refusal
          else .error .misuse
  termination_by arguments => arguments.length
  decreasing_by
    all_goals simp only [List.length_cons]
    all_goals try omega
    all_goals
      rename_i h
      have bound := length_valueOf_le h
      simp only at bound
      omega

/-- Takes the arguments of `check-config`. -/
def checkConfig (verbose : Nat) (file : Option String) :
    List String → Except Refusal (Nat × Command)
  | [] =>
      match file with
      | some file => .ok (verbose, .checkConfig file)
      | none => .error .misuse
  | argument :: rest =>
      match formOf argument with
      | .separator => do
          let file ← rest.foldlM ReplayDraft.takePath file
          match file with
          | some file => .ok (verbose, .checkConfig file)
          | none => .error .misuse
      | .positional path => do
          let file ← ReplayDraft.takePath file path
          checkConfig verbose file rest
      | .letters letters => do
          let count ← countLetters false verbose letters
          checkConfig count file rest
      | .named name value =>
          if name = "help" then withoutValue value (.error .help)
          else if name = "verbose" then
            withoutValue value (checkConfig (countUp verbose) file rest)
          else .error .misuse

/-- The names that may follow `help`. -/
def commandNames : List String :=
  ["replay", "check-config", "help"]

/-- Takes the arguments of `help`. -/
def help : List String → Refusal
  | [] => .help
  | [name] => if name ∈ commandNames then .help else .misuse
  | _ => .misuse

/-- What a command asks for, with the count of the level that stands last. -/
def invocation (outer : Nat) (result : Except Refusal (Nat × Command)) :
    Except Refusal Invocation :=
  result.map fun (inner, command) => ⟨if inner = 0 then outer else inner, command⟩

/-- Takes all arguments. -/
def parseFrom (verbose : Nat) : List String → Except Refusal Invocation
  | [] => .error .misuse
  | argument :: rest =>
      match formOf argument with
      | .separator => .error .misuse
      | .positional name =>
          if name = "replay" then invocation verbose (replay {} rest)
          else if name = "check-config" then invocation verbose (checkConfig 0 none rest)
          else if name = "help" then .error (help rest)
          else .error .misuse
      | .letters letters => do
          let count ← countLetters true verbose letters
          parseFrom count rest
      | .named name value =>
          if name = "help" then withoutValue value (.error .help)
          else if name = "version" then withoutValue value (.error .version)
          else if name = "verbose" then withoutValue value (parseFrom (countUp verbose) rest)
          else .error .misuse

/-- What the arguments ask for. -/
def parse (arguments : List String) : Except Refusal Invocation :=
  parseFrom 0 arguments

end Arguments

end AppLifecycle
