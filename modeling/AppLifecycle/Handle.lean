import AppLifecycle.KeyMap

/-!
# Handles and persistent ids

The compositor names sessions and surfaces by 64-bit handles. An application keeps the
`SurfaceId` of a window across restarts, while its handle is new each time.
-/

namespace AppLifecycle

/-- The compositor's name for a session. -/
structure SessionHandle where
  raw : UInt64
  deriving DecidableEq, Inhabited, Repr

/-- The compositor's name for a surface. -/
structure SurfaceHandle where
  raw : UInt64
  deriving DecidableEq, Inhabited, Repr

/-- The identity of a window that outlives its handle. -/
structure SurfaceId where
  text : String
  deriving DecidableEq, Inhabited, Repr

namespace SessionHandle

/-- The handle as messages show it. -/
def display (handle : SessionHandle) : String :=
  "session@" ++ toString handle.raw.toNat

instance : KeyOrder SessionHandle :=
  KeyOrder.ofInjective (fun handle => handle.raw.toNat) fun {a b} h => by
    cases a
    cases b
    simpa [UInt64.toNat_inj] using h

end SessionHandle

namespace SurfaceHandle

/-- The handle as messages show it. -/
def display (handle : SurfaceHandle) : String :=
  "surface@" ++ toString handle.raw.toNat

instance : KeyOrder SurfaceHandle :=
  KeyOrder.ofInjective (fun handle => handle.raw.toNat) fun {a b} h => by
    cases a
    cases b
    simpa [UInt64.toNat_inj] using h

end SurfaceHandle

namespace SurfaceId

/-- The id as messages show it. -/
def display (id : SurfaceId) : String :=
  id.text

instance : KeyOrder SurfaceId :=
  KeyOrder.ofInjective (fun id => id.text) fun {a b} h => by
    cases a
    cases b
    simpa using h

end SurfaceId

end AppLifecycle
