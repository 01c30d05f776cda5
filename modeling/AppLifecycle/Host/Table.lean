import AppLifecycle.Host.Environ
import AppLifecycle.Host.Stat

/-!
# The processes of the host

What can be learnt of the processes: the status line of each and its environment, as far as they
can be read.
-/

namespace AppLifecycle

/-- What the host tells of its processes. -/
structure ProcessTable where
  /-- The process that runs this program. -/
  own : UInt32
  stat : UInt32 → Option String
  environ : UInt32 → Option (List UInt8)

namespace ProcessTable

/-- The host that tells of no process. -/
def empty : ProcessTable where
  own := 0
  stat _ := none
  environ _ := none

instance : Inhabited ProcessTable := ⟨empty⟩

/-- Whether a process runs. One that has exited and is only waited for does not. Where nothing
can be read, just the own process is known to run. -/
def isAlive (processes : ProcessTable) (pid : UInt32) : Bool :=
  if pid = 0 then false
  else
    match processes.stat pid with
    | some stat => (Host.stateOfStat? stat).any fun state => !Host.isGone state
    | none => pid == processes.own

/-- The application id under which a process was launched. -/
def launchedAppId? (processes : ProcessTable) (pid : UInt32) : Option String :=
  (processes.environ pid).bind Host.appIdOfEnviron?

end ProcessTable

end AppLifecycle
