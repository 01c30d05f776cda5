import AppLifecycle.Config
import AppLifecycle.Host.Table

/-!
# Who may connect

The compositor asks before it accepts a client.
-/

namespace AppLifecycle

/-- Decides on a client by its process and its application id. -/
abbrev Authorizer :=
  UInt32 → String → Bool

/-- What is kept of a configuration to decide on clients. -/
structure AdmissionRules where
  /-- The applications that are refused. -/
  denied : KeySet String
  /-- Whether clients are refused whose process does not run. -/
  requireLiveProcess : Bool

namespace AdmissionRules

/-- The rules of a configuration. -/
def ofConfig (config : LifecycleConfig) : AdmissionRules where
  denied := KeySet.ofList config.denyAppIds
  requireLiveProcess := config.requireLiveProcess

/-- Whether the rules admit a client. -/
def admits (rules : AdmissionRules) (processes : ProcessTable) : Authorizer := fun pid appId =>
  if rules.denied.contains appId then false
  else if rules.requireLiveProcess && !processes.isAlive pid then false
  else true

end AdmissionRules

namespace Authorizer

/-- Refuses the applications that the configuration refuses, and, if it says so, processes that
do not run. -/
def ofConfig (config : LifecycleConfig) (processes : ProcessTable) : Authorizer :=
  (AdmissionRules.ofConfig config).admits processes

end Authorizer

end AppLifecycle
