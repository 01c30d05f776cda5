import AppLifecycle.Command.Reach
import AppLifecycle.Proofs.Lines
import AppLifecycle.Proofs.Message
import AppLifecycle.Proofs.Queue
import AppLifecycle.Proofs.SnapshotLine

/-!
# Replays

A replay shows what a coordinator tells as it handles the inputs of a script, one notification on
a line, and what it has come to in the end. Requests among the steps are answered and leave no
trace: whether a client may connect is not looked at, and whatever keeps a buffer from being bound
only costs the frame (`replay_outcome`).
-/

namespace AppLifecycle

namespace ScriptStep

/-- What a step has the coordinator handle. -/
def input? : ScriptStep → Option Input
  | compositor event => some (.event event)
  | shell command => some (.command command)
  | authorize .. | bindTexture .. => none

theorem input?_envelope (step : ScriptStep) : step.envelope.input? = step.input? := by
  cases step <;> rfl

/-- Whether a step only asks for an answer. -/
def isRequest : ScriptStep → Bool
  | authorize .. | bindTexture .. => true
  | compositor _ | shell _ => false

theorem input?_of_request {step : ScriptStep} (request : step.isRequest = true) :
    step.input? = none := by
  cases step with
  | compositor | shell => contradiction
  | authorize | bindTexture => rfl

end ScriptStep

namespace Script

/-- Whether a line holds a request. -/
def isRequestLine (line : List Char) : Bool :=
  match Json.readDocument ScriptStep.read line with
  | .ok step => step.isRequest
  | .error _ => false

/-- The inputs that are read from lines, if they can be read. -/
def inputsOf? (number : Nat) (lines : List (List Char)) : Option (List Input) :=
  (parseLines number lines).toOption.map (·.filterMap ScriptStep.input?)

theorem inputsOf?_of_skipped {number : Nat} {line : List Char} {rest : List (List Char)}
    (skipped : isSkipped line = true) :
    inputsOf? number (line :: rest) = inputsOf? (number + 1) rest := by
  rw [inputsOf?, parseLines, if_pos skipped, inputsOf?]

theorem inputsOf?_of_error {number : Nat} {line : List Char} {rest : List (List Char)}
    {cause : Json.ReadError} (read : isSkipped line = false)
    (failed : Json.readDocument ScriptStep.read line = .error cause) :
    inputsOf? number (line :: rest) = none := by
  rw [inputsOf?, parseLines, read, failed]
  rfl

theorem inputsOf?_of_step {number : Nat} {line : List Char} {rest : List (List Char)}
    {step : ScriptStep} (read : isSkipped line = false)
    (parsed : Json.readDocument ScriptStep.read line = .ok step) :
    inputsOf? number (line :: rest) =
      (inputsOf? (number + 1) rest).map (step.input?.toList ++ ·) := by
  rw [inputsOf?, inputsOf?, parseLines, read, parsed]
  cases parseLines (number + 1) rest with
  | error error => rfl
  | ok steps => cases request : step.input? <;> simp [Except.map, Except.toOption, request]

/-- Lines that hold requests may be left out, and lines may be numbered otherwise. -/
theorem inputsOf?_filter (first second : Nat) (lines : List (List Char)) :
    inputsOf? first lines = inputsOf? second (lines.filter (!isRequestLine ·)) := by
  induction lines generalizing first second with
  | nil => rfl
  | cons line rest ih =>
      cases skipped : isSkipped line with
      | true =>
          rw [inputsOf?_of_skipped skipped, List.filter_cons]
          split
          · rw [inputsOf?_of_skipped skipped]
            exact ih _ _
          · exact ih _ _
      | false =>
          cases parsed : Json.readDocument ScriptStep.read line with
          | error cause =>
              have kept : (!isRequestLine line) = true := by rw [isRequestLine, parsed]; rfl
              rw [inputsOf?_of_error skipped parsed, List.filter_cons, if_pos kept,
                inputsOf?_of_error skipped parsed]
          | ok step =>
              have asks : isRequestLine line = step.isRequest := by rw [isRequestLine, parsed]
              rw [inputsOf?_of_step skipped parsed, List.filter_cons, asks]
              cases request : step.isRequest with
              | true =>
                  rw [ScriptStep.input?_of_request request, ih (first + 1) second]
                  simp
              | false =>
                  rw [Bool.not_false, if_pos rfl, inputsOf?_of_step skipped parsed,
                    ih (first + 1) (second + 1)]

/-- The inputs among the steps of a script, in the surroundings of a setup. -/
def moments {π : Type} (setup : Setup π) (steps : List ScriptStep) : List Moment :=
  (steps.filterMap ScriptStep.input?).map (⟨·, setup.surroundings⟩)

end Script

/-! ## Requests for textures -/

/-- Whatever keeps a buffer from being bound is passed over. -/
theorem Coordinator.isPassedOver_of_bindTexture {π : Type} {state : Coordinator π}
    {surface : SurfaceHandle} {buffer : BufferInfo} {failure : Failure}
    (failed : state.bindTexture surface buffer = .error failure) : failure.isPassedOver = true := by
  unfold Coordinator.bindTexture at failed
  split at failed
  · unfold Surface.bindTexture at failed
    split at failed
    · split at failed
      · split at failed
        · cases failed
          rfl
        · contradiction
      · cases failed
        rfl
    · cases failed
      rfl
  · cases failed
    rfl

namespace Command

variable {π : Type} {setup : Setup π} {state : Coordinator π}

/-- No answer to a request of a script breaks the replay off. -/
theorem fatal?_of_reply? {step : ScriptStep} {reply : TicketReply}
    (replied : Coordinator.reply? setup state step.envelope = some reply) :
    reply.2.fatal? = none := by
  cases step with
  | compositor | shell => contradiction
  | authorize =>
      cases replied
      rfl
  | bindTexture surface buffer =>
      cases replied
      cases bound : state.bindTexture surface buffer with
      | ok => rfl
      | error failure =>
          exact if_pos (Coordinator.isPassedOver_of_bindTexture bound)

/-! ## Replays -/

/-- A script is driven to its end, and is handled like the queue of what its steps post. -/
theorem drive_eq (steps : List ScriptStep) :
    drive setup steps state =
      (Coordinator.applyAll setup (steps.map (·.envelope)) state).answering (.ok ()) := by
  induction steps generalizing state with
  | nil => rfl
  | cons step rest ih =>
      have calm : (Coordinator.reply? setup state step.envelope).toList.findSome?
          (·.2.fatal?) = none := by
        rw [List.findSome?_eq_none_iff]
        intro reply member
        exact fatal?_of_reply? (Option.mem_toList.1 member)
      rw [drive, Coordinator.serve_eq, List.map_cons,
        Coordinator.applyAll_cons step.envelope (rest.map (·.envelope))]
      simp only [Step.andThen, Step.answering, calm, ih]

theorem applyAll_envelopes (steps : List ScriptStep) :
    Coordinator.applyAll setup (steps.map (·.envelope)) state =
      Coordinator.follow setup (Script.moments setup steps) state := by
  have inputs : (steps.map (·.envelope)).filterMap Envelope.input? =
      steps.filterMap ScriptStep.input? := by
    rw [List.filterMap_map]
    exact List.filterMap_congr fun step _ => step.input?_envelope
  rw [Coordinator.applyAll, Coordinator.follow, Script.moments, Step.forEach_map, inputs]
  rfl

/-- The lines that a run shows: its notifications, and what it has come to. -/
def shownBy (setup : Setup π) (moments : List Moment) : List String :=
  (Effect.notifications (Coordinator.effectsOf setup moments)).map notificationLine ++
    [snapshotLine (Coordinator.after setup moments).snapshot]

theorem replayLines_eq (config : LifecycleConfig) (processes : ProcessTable)
    (walk : Registry.Walk) (steps : List ScriptStep) :
    let setup := Setup.ofConfig config processes walk
    replayLines config processes walk steps = .ok (shownBy setup (Script.moments setup steps)) := by
  intro setup
  rw [replayLines]
  simp only [drive_eq, applyAll_envelopes]
  rfl

theorem baseConfig_eq (files : FileStore) (config : Option String) :
    baseConfig files config = config.elim (.ok {}) (LifecycleConfig.load files) := by
  cases config <;> rfl

/-- All that decides a replay: the configuration, and what is read of the script. -/
theorem outcome_replay (files : FileStore) (processes : ProcessTable) (walk : Registry.Walk)
    (script : String) (config : Option String) (throttle : Bool) (exempt : List String) :
    (replay script config throttle exempt).outcome files processes walk =
      match baseConfig files config with
      | .error cause => .failed ⟨[], cause⟩
      | .ok base =>
          match (base.extend throttle exempt).validate with
          | .error failure => .failed ⟨[], .failure failure⟩
          | .ok () =>
              match Script.load files script with
              | .error failure => .failed failure
              | .ok steps =>
                  let setup := Setup.ofConfig (base.extend throttle exempt) processes walk
                  ⟨outputOf (shownBy setup (Script.moments setup steps)), "", 0⟩ := by
  have steps : (replay script config throttle exempt).run files processes walk =
      ((replayConfig files config throttle exempt).mapError fun cause => ⟨[], cause⟩).bind
        fun merged => (Script.load files script).bind (replayLines merged processes walk) := rfl
  have settings : replayConfig files config throttle exempt =
      (baseConfig files config).bind fun base =>
        ((base.extend throttle exempt).validate.mapError .failure).bind
          fun _ => .ok (base.extend throttle exempt) := rfl
  rw [outcome, steps, settings]
  cases baseConfig files config with
  | error cause => rfl
  | ok base =>
      cases valid : (base.extend throttle exempt).validate with
      | error failure => simp [Except.bind, Except.mapError, valid]
      | ok checked =>
          cases Script.load files script with
          | error failure => simp [Except.bind, Except.mapError, valid]
          | ok steps => simp [Except.bind, Except.mapError, valid, replayLines_eq]

/-- A command that fails prints nothing. -/
theorem output_of_failed {files : FileStore} {processes : ProcessTable} {walk : Registry.Walk}
    {command : Command} (failed : (command.outcome files processes walk).exitCode ≠ 0) :
    (command.outcome files processes walk).output = "" := by
  unfold outcome at failed ⊢
  cases ran : command.run files processes walk with
  | error failure => rfl
  | ok lines =>
      rw [ran] at failed
      contradiction

/-- A replay fails over its configuration or over its script, and over nothing else. -/
theorem replay_fails_iff {files : FileStore} {processes : ProcessTable} {walk : Registry.Walk}
    {script : String} {config : Option String} {throttle : Bool} {exempt : List String} :
    ((replay script config throttle exempt).outcome files processes walk).exitCode ≠ 0 ↔
      (∃ cause, baseConfig files config = .error cause) ∨
      (∃ base failure, baseConfig files config = .ok base ∧
        (base.extend throttle exempt).validate = .error failure) ∨
      ∃ failure, Script.load files script = .error failure := by
  rw [outcome_replay]
  cases baseConfig files config with
  | error cause => simp [Outcome.failed]
  | ok base =>
      cases valid : (base.extend throttle exempt).validate with
      | error failure => simp [Outcome.failed, valid]
      | ok checked =>
          cases Script.load files script with
          | error failure => simp [Outcome.failed, valid]
          | ok steps => simp [valid]

/-- The output of a replay stands on lines: one for each notification, and one for the snapshot. -/
theorem lines_shownBy (setup : Setup π) (moments : List Moment) :
    Text.lines (outputOf (shownBy setup moments)).toList =
      (Effect.notifications (Coordinator.effectsOf setup moments)).map (·.toJson.compactChars) ++
        [(snapshotLine (Coordinator.after setup moments).snapshot).toList, []] := by
  have text : (outputOf (shownBy setup moments)).toList =
      ((shownBy setup moments).map String.toList).flatMap (· ++ ['\n']) := by
    rw [outputOf, String.toList_join, List.flatMap_map, List.flatMap_map]
    simp only [String.toList_append]
    rfl
  have plain : ∀ line ∈ (shownBy setup moments).map String.toList, Text.Plain line := by
    intro line member
    obtain ⟨shown, shownMember, rfl⟩ := List.mem_map.1 member
    rcases List.mem_append.1 shownMember with notification | snapshot
    · obtain ⟨told, _, rfl⟩ := List.mem_map.1 notification
      exact Json.plain_compact _
    · rw [List.mem_singleton.1 snapshot]
      exact Json.plain_compact _
  rw [text, Text.lines_of_plain _ plain, shownBy]
  simp [notificationLine, Json.compact, List.map_append, Function.comp_def]

private theorem run_of_steps (setup : Setup π) (state : Coordinator π) (steps : List ScriptStep) :
    let queue := steps.map (·.envelope) ++ [.snapshot 0, .shutdown]
    let handled := Coordinator.applyAll setup (steps.map (·.envelope)) state
    let ended := Coordinator.shutdown setup handled.state
    ∃ earlier, Coordinator.run setup queue state =
      ⟨ended.state, earlier ++ [(0, .picture (.ok handled.state.snapshot))],
        handled.effects ++ ended.effects⟩ := by
  induction steps generalizing state with
  | nil => exact ⟨[], rfl⟩
  | cons step rest ih =>
      have proceeds : step.envelope ≠ .shutdown := by cases step <;> exact Envelope.noConfusion
      obtain ⟨earlier, later⟩ := ih (Coordinator.applyAll setup [step.envelope] state).state
      simp only [List.map_cons, List.cons_append]
      rw [Coordinator.run_cons proceeds, Coordinator.serve_eq,
        Coordinator.applyAll_cons step.envelope (rest.map (·.envelope))]
      simp only [Step.andThen, Step.answering, later]
      exact ⟨(Coordinator.reply? setup state step.envelope).toList ++ earlier, by
        simp only [List.append_assoc]⟩

/-- What a coordinator shows that runs on the queue of a script: what is told while the script is
handled, and then what is told as it is shut down. The snapshot is asked for in between. -/
theorem run_of_script (setup : Setup π) (steps : List ScriptStep) :
    let queue := steps.map (·.envelope) ++ [.snapshot 0, .shutdown]
    let ran := Coordinator.run setup queue (Coordinator.start setup)
    let moments := Script.moments setup steps
    let last := Coordinator.after setup moments
    ran.effects = Coordinator.effectsOf setup moments ++ (Coordinator.shutdown setup last).effects ∧
      ran.answer.getLast? = some (0, .picture (.ok last.snapshot)) := by
  intro queue ran moments last
  obtain ⟨earlier, whole⟩ := run_of_steps setup (Coordinator.start setup) steps
  rw [applyAll_envelopes] at whole
  have ended : ran = _ := whole
  rw [ended]
  exact ⟨rfl, List.getLast?_concat⟩

/-- What is read of a script file as far as its inputs go. -/
theorem inputs_load {files : FileStore} {script text : String}
    (read : files.readText script = .ok text) :
    (Script.load files script).toOption.map (·.filterMap ScriptStep.input?) =
      Script.inputsOf? 1 ((Text.lines text.toList).filter (!Script.isRequestLine ·)) := by
  rw [← Script.inputsOf?_filter 1 1, Script.inputsOf?]
  have loaded : Script.load files script = (Script.parse text.toList).mapError fun error =>
      error.toFailure.within ("invalid script " ++ script) := by
    rw [Script.load, read]
    rfl
  rw [loaded, Script.parse]
  cases Script.parseLines 1 (Text.lines text.toList) <;> rfl

/-- Whether requests are inserted into a script or deleted from it does not show. -/
theorem outcome_congr {files other : FileStore} {script otherScript : String}
    {config : Option String} {text otherText : String}
    (sameConfig : baseConfig other config = baseConfig files config)
    (read : files.readText script = .ok text)
    (otherRead : other.readText otherScript = .ok otherText)
    (same : (Text.lines otherText.toList).filter (!Script.isRequestLine ·) =
      (Text.lines text.toList).filter (!Script.isRequestLine ·))
    (processes : ProcessTable) (walk : Registry.Walk) (throttle : Bool) (exempt : List String) :
    let first := (replay script config throttle exempt).outcome files processes walk
    let second := (replay otherScript config throttle exempt).outcome other processes walk
    second.output = first.output ∧ second.exitCode = first.exitCode := by
  intro first second
  have inputs := (inputs_load otherRead).trans ((congrArg _ same).trans (inputs_load read).symm)
  simp only [first, second, outcome_replay, sameConfig]
  cases baseConfig files config with
  | error cause => exact ⟨rfl, rfl⟩
  | ok base =>
      simp only
      cases (base.extend throttle exempt).validate with
      | error failure => exact ⟨rfl, rfl⟩
      | ok valid =>
          simp only
          cases loaded : Script.load files script with
          | error failure =>
              cases otherLoaded : Script.load other otherScript with
              | error otherFailure => exact ⟨rfl, rfl⟩
              | ok otherSteps =>
                  rw [loaded, otherLoaded] at inputs
                  contradiction
          | ok steps =>
              cases otherLoaded : Script.load other otherScript with
              | error otherFailure =>
                  rw [loaded, otherLoaded] at inputs
                  contradiction
              | ok otherSteps =>
                  rw [loaded, otherLoaded] at inputs
                  have equal : otherSteps.filterMap ScriptStep.input? =
                      steps.filterMap ScriptStep.input? := Option.some.inj inputs
                  simp only [Script.moments, equal, and_self]

/-- A script that activates a session. -/
def plainScript : String :=
  "\x7b\"shell\":\x7b\"type\":\"mark_running\",\"session\":1\x7d\x7d"

/-- The same script, in which a texture is first asked for with an empty buffer that cannot back
one, for a surface that does not exist. -/
def askingScript : String :=
  "\x7b\"bindTexture\":\x7b\"surface\":9,\"buffer\":" ++
    "\x7b\"width\":0,\"height\":0,\"texture_capable\":false\x7d\x7d\x7d\n" ++ plainScript

/-- The two scripts as files. -/
def scriptFiles : FileStore
  | "plain" => .ok plainScript.toUTF8.toList
  | "asking" => .ok askingScript.toUTF8.toList
  | _ => .error .notFound

end Command

end AppLifecycle
