import AppLifecycle.Config
import AppLifecycle.Json.Record
import AppLifecycle.Json.Value

/-!
# Configurations in JSON

Every field may be left out and then has its default.
-/

namespace AppLifecycle.LifecycleConfig

open Json (Field Form Reader)

/-- A list of application ids as it is written. -/
def idsToJson (ids : List String) : Json :=
  .array (ids.map .string)

/-- The configuration as it is written, with all its fields. -/
def toJson (config : LifecycleConfig) : Json :=
  .object
    [("throttleSuspendedSurfaces", .bool config.throttleSuspendedSurfaces),
      ("exemptAppIds", idsToJson config.exemptAppIds),
      ("wakelock", .bool config.wakelock),
      ("denyAppIds", idsToJson config.denyAppIds),
      ("requireLiveProcess", .bool config.requireLiveProcess)]

/-- The fields of a configuration that have been read. -/
structure Draft where
  throttleSuspendedSurfaces : Option Bool := none
  exemptAppIds : Option (List String) := none
  wakelock : Option Bool := none
  denyAppIds : Option (List String) := none
  requireLiveProcess : Option Bool := none

/-- The field `throttleSuspendedSurfaces`. -/
def throttleField : Field Draft Bool where
  name := "throttleSuspendedSurfaces"
  get := (·.throttleSuspendedSurfaces)
  put draft value := { draft with throttleSuspendedSurfaces := some value }
  read := Json.readBool

/-- The field `exemptAppIds`. -/
def exemptField : Field Draft (List String) where
  name := "exemptAppIds"
  get := (·.exemptAppIds)
  put draft value := { draft with exemptAppIds := some value }
  read := Json.readArray Json.readText

/-- The field `wakelock`. -/
def wakelockField : Field Draft Bool where
  name := "wakelock"
  get := (·.wakelock)
  put draft value := { draft with wakelock := some value }
  read := Json.readBool

/-- The field `denyAppIds`. -/
def denyField : Field Draft (List String) where
  name := "denyAppIds"
  get := (·.denyAppIds)
  put draft value := { draft with denyAppIds := some value }
  read := Json.readArray Json.readText

/-- The field `requireLiveProcess`. -/
def requireLiveField : Field Draft Bool where
  name := "requireLiveProcess"
  get := (·.requireLiveProcess)
  put draft value := { draft with requireLiveProcess := some value }
  read := Json.readBool

/-- The configuration of a draft. A field left out has its default. -/
def ofDraft (draft : Draft) : LifecycleConfig :=
  let default : LifecycleConfig := {}
  { throttleSuspendedSurfaces := throttleField.orElse default.throttleSuspendedSurfaces draft
    exemptAppIds := exemptField.orElse default.exemptAppIds draft
    wakelock := wakelockField.orElse default.wakelock draft
    denyAppIds := denyField.orElse default.denyAppIds draft
    requireLiveProcess := requireLiveField.orElse default.requireLiveProcess draft }

/-- No field is required. -/
def form : Form Draft LifecycleConfig where
  blank := {}
  slots :=
    [throttleField.slot, exemptField.slot, wakelockField.slot, denyField.slot,
      requireLiveField.slot]
  complete _ draft := .ok (ofDraft draft)

/-- Reads a configuration, valid or not. -/
def read : Reader LifecycleConfig :=
  form.read

end AppLifecycle.LifecycleConfig
