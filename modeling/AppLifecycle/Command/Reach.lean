import AppLifecycle.Command.Run

/-!
# What a command asks of the host

A command names the files that it reads, and a script names the processes that it is about. Who
calls a command can so learn beforehand all that it will look at. That a command looks at no
other file is `Command.run_congr`.
-/

namespace AppLifecycle

namespace ScriptStep

/-- The process that a step is about. -/
def pid? : ScriptStep → Option UInt32
  | compositor (.sessionCreated _ pid _) => some pid
  | authorize pid _ => some pid
  | _ => none

end ScriptStep

namespace Command

variable {files other : FileStore}

/-- The files that a command reads. -/
def paths : Command → List String
  | replay script config _ _ => config.toList ++ [script]
  | checkConfig file => [file]

/-- The processes that a command is about, as far as its script can be read. -/
def pids (files : FileStore) : Command → List UInt32
  | replay script _ _ _ =>
      match Script.load files script with
      | .ok steps => steps.filterMap (·.pid?)
      | .error _ => []
  | checkConfig _ => []

private theorem readText_congr {path : String} (same : files path = other path) :
    files.readText path = other.readText path := by
  simp only [FileStore.readText, same]

private theorem loadConfig_congr {path : String} (same : files path = other path) :
    LifecycleConfig.load files path = LifecycleConfig.load other path := by
  simp only [LifecycleConfig.load, readText_congr same]

private theorem loadScript_congr {path : String} (same : files path = other path) :
    Script.load files path = Script.load other path := by
  simp only [Script.load, readText_congr same]

theorem baseConfig_congr {config : Option String}
    (same : ∀ path ∈ config, files path = other path) :
    baseConfig files config = baseConfig other config := by
  cases config with
  | none => rfl
  | some path => exact loadConfig_congr (same path rfl)

/-- Two hosts that agree on the files a command names have it print the same. -/
theorem run_congr {processes : ProcessTable} {command : Command} {walk : Registry.Walk}
    (same : ∀ path ∈ command.paths, files path = other path) :
    run files processes command walk = run other processes command walk := by
  cases command with
  | replay script config throttle exempt =>
      have sameScript : files script = other script := same script (by simp [paths])
      have sameConfig : ∀ path ∈ config, files path = other path :=
        fun path member => same path (by simp [paths, Option.mem_def.1 member])
      simp only [run, replayConfig, loadScript_congr sameScript, baseConfig_congr sameConfig]
  | checkConfig file =>
      have sameFile : files file = other file := same file (by simp [paths])
      simp only [run, loadConfig_congr sameFile]

end Command

end AppLifecycle
