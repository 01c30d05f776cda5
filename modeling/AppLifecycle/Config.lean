import AppLifecycle.Failure
import AppLifecycle.Text.Quoted

/-!
# Configuration

Which applications are exempt from suspension, which are refused, and what happens to the
surfaces of a suspended session.
-/

namespace AppLifecycle

/-- The choices that govern sessions. -/
structure LifecycleConfig where
  /-- Stop the frame droppers of suspended sessions, which throttles their clients. -/
  throttleSuspendedSurfaces : Bool := false
  /-- Applications that are never suspended by the shell. -/
  exemptAppIds : List String := []
  /-- Keep the device awake for running sessions. -/
  wakelock : Bool := true
  /-- Applications that are refused. -/
  denyAppIds : List String := []
  /-- Refuse sessions whose process does not run. -/
  requireLiveProcess : Bool := false
  deriving DecidableEq, Inhabited, Repr

namespace LifecycleConfig

/-- Whether an application is exempt from suspension. -/
def isExempt (config : LifecycleConfig) (appId : String) : Bool :=
  config.exemptAppIds.contains appId

/-- Whether an application is refused. -/
def isDenied (config : LifecycleConfig) (appId : String) : Bool :=
  config.denyAppIds.contains appId

/-- The first listed id that is blank, exempt ones first. -/
def firstBlank? (config : LifecycleConfig) : Option String :=
  (config.exemptAppIds ++ config.denyAppIds).find? fun id => Text.isBlank id.toList

/-- The first refused id that is exempt as well. -/
def firstConflict? (config : LifecycleConfig) : Option String :=
  let exempt := KeySet.ofList config.exemptAppIds
  config.denyAppIds.find? exempt.contains

/-- Refuses a configuration with a blank id, or with an id that is both exempt and refused. -/
def validate (config : LifecycleConfig) : Except Failure Unit :=
  match config.firstBlank?, config.firstConflict? with
  | some id, _ =>
      .error (.invalidConfig ("application id " ++ Text.quotedBlank id ++ " is blank"))
  | none, some id => .error (.invalidConfig (id ++ " is both exempt and denied"))
  | none, none => .ok ()

/-- The configuration with what a command line adds to it. -/
def extend (config : LifecycleConfig) (throttle : Bool) (exempt : List String) :
    LifecycleConfig :=
  { config with
    throttleSuspendedSurfaces := config.throttleSuspendedSurfaces || throttle
    exemptAppIds := config.exemptAppIds ++ exempt }

end LifecycleConfig

end AppLifecycle
