import AppLifecycle.Message.Json
import AppLifecycle.Roster

/-!
# Snapshots in JSON
-/

namespace AppLifecycle

namespace SurfaceSnapshot

/-- The picture of a surface as it is written. -/
def toJson (picture : SurfaceSnapshot) : Json :=
  .object
    [("surface", picture.surface.toJson),
      ("persistentId", picture.persistentId.toJson),
      ("title", .string picture.title),
      ("chrome", picture.chrome.toJson),
      ("live", .bool picture.live),
      ("firstFrameDrawn", .bool picture.firstFrameDrawn),
      ("frameDropperRunning", .bool picture.dropperRunning),
      ("presentation", picture.presentation.toJson),
      ("focused", .bool picture.focused)]

end SurfaceSnapshot

namespace SessionSnapshot

/-- The picture of a session as it is written. -/
def toJson (picture : SessionSnapshot) : Json :=
  .object
    [("session", picture.session.toJson),
      ("pid", .number picture.pid.toNat),
      ("appId", .string picture.appId),
      ("state", picture.state.toJson),
      ("surfaces", .array (picture.surfaces.map (·.toJson)))]

end SessionSnapshot

namespace ShellSnapshot

/-- The picture of all sessions as it is written. -/
def toJson (picture : ShellSnapshot) : Json :=
  .object
    [("sessions", .array (picture.sessions.map (·.toJson))),
      ("wakelockEnabled", .bool picture.wakeLockEnabled)]

end ShellSnapshot

end AppLifecycle
