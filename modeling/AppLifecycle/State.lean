/-!
# Session states, presentation states and chrome levels

The transition graph of a session:

    starting --mark_running--> running --suspend--> suspending --confirm_suspended--> suspended
                                  ^                      |                               |
                                  +-------resume---------+-------------------------------+
    any state but stopped --stop--> stopped

A stopped session has no edges. `LifecycleOp.target?` is the whole table.
-/

namespace AppLifecycle

/-- Where an application session stands in its life. -/
inductive SessionState where
  /-- Reported by the compositor and not yet activated by the shell. -/
  | starting
  | running
  /-- A suspension was requested and waits for the compositor. -/
  | suspending
  | suspended
  /-- The session has ended for good. -/
  | stopped
  deriving DecidableEq, Inhabited, Repr

namespace SessionState

/-- Every state, in the order of a life. -/
def all : List SessionState :=
  [starting, running, suspending, suspended, stopped]

/-- The name of a state in messages. -/
def name : SessionState → String
  | starting => "starting"
  | running => "running"
  | suspending => "suspending"
  | suspended => "suspended"
  | stopped => "stopped"

/-- Whether no edge leaves the state. -/
def isTerminal (state : SessionState) : Bool :=
  decide (state = stopped)

end SessionState

/-- A request that moves a session along an edge of the transition graph. -/
inductive LifecycleOp where
  | markRunning
  | suspend
  /-- The compositor reports that a requested suspension is complete. -/
  | confirmSuspended
  | resume
  | stop
  deriving DecidableEq, Inhabited, Repr

namespace LifecycleOp

/-- Every request. -/
def all : List LifecycleOp :=
  [markRunning, suspend, confirmSuspended, resume, stop]

/-- The name of a request. -/
def name : LifecycleOp → String
  | markRunning => "mark_running"
  | suspend => "suspend"
  | confirmSuspended => "confirm_suspended"
  | resume => "resume"
  | stop => "stop"

/-- The state that the request leads to, if the graph has such an edge. -/
def target? : LifecycleOp → SessionState → Option SessionState
  | _, .stopped => none
  | stop, _ => some .stopped
  | markRunning, .starting => some .running
  | suspend, .running => some .suspending
  | confirmSuspended, .suspending => some .suspended
  | resume, .suspending => some .running
  | resume, .suspended => some .running
  | _, _ => none

/-- An edge never leads back to where it starts. -/
theorem target?_ne {op : LifecycleOp} {source target : SessionState}
    (h : op.target? source = some target) : target ≠ source := by
  cases op <;> cases source <;> simp_all [target?] <;> rw [← h] <;> decide

end LifecycleOp

/-- How the shell presents a surface. -/
inductive PresentationState where
  | restored
  | minimized
  | maximized
  | fullscreen
  | horizMaximized
  | vertMaximized
  | hidden
  deriving DecidableEq, Inhabited, Repr

namespace PresentationState

/-- Every presentation state. -/
def all : List PresentationState :=
  [restored, minimized, maximized, fullscreen, horizMaximized, vertMaximized, hidden]

/-- The name of a presentation state in messages. -/
def name : PresentationState → String
  | restored => "restored"
  | minimized => "minimized"
  | maximized => "maximized"
  | fullscreen => "fullscreen"
  | horizMaximized => "horiz_maximized"
  | vertMaximized => "vert_maximized"
  | hidden => "hidden"

end PresentationState

/-- How much decoration an application asks the shell for. -/
inductive ChromeLevel where
  | noChrome
  | low
  | normal
  deriving DecidableEq, Repr

namespace ChromeLevel

instance : Inhabited ChromeLevel := ⟨normal⟩

/-- Every level. -/
def all : List ChromeLevel :=
  [noChrome, low, normal]

/-- The name of a level in messages. -/
def name : ChromeLevel → String
  | noChrome => "no_chrome"
  | low => "low"
  | normal => "normal"

/-- The level behind the compositor's raw hint: one asks for little chrome, and every other
number for the normal amount. -/
def ofHint (hint : Int) : ChromeLevel :=
  if hint = 1 then low else normal

end ChromeLevel

end AppLifecycle
