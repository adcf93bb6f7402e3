import ClusterFramework.Binary64.Reading
import ClusterFramework.Duration
import ClusterFramework.FrameworkError
import ClusterFramework.Message.Call
import ClusterFramework.Settings.EnvironmentVariables

/-! What a framework registers with, and how it talks to its master. -/
namespace ClusterFramework

structure MasterSettings where
  endpoint : String := "http://127.0.0.1:5050"
  path : String := "/api/v1/scheduler"
  connectTimeout : UInt64 := 10000
  requestTimeout : UInt64 := 0
  deriving DecidableEq,Repr

/-- Times are in milliseconds but for the failover timeout, which is in seconds. -/
structure FrameworkSettings where
  masterUrl : String := "http://127.0.0.1:5050"
  name : String
  user : String := "root"
  role : String := "*"
  principal : Option String := none
  frameworkId : Option String := none
  failoverTimeout : Binary64 := .zero
  checkpoint : Bool := false
  webuiUrl : Option String := none
  reconnectBackoff : UInt64 := 2000
  reconnectBackoffMax : UInt64 := 0
  connectTimeout : UInt64 := 10000
  requestTimeout : UInt64 := 0
  eventBuffer : UInt64 := 256
  deriving DecidableEq,Repr

namespace FrameworkSettings

def withEventBuffer (s : FrameworkSettings) (n : UInt64) : FrameworkSettings :=
  { s with eventBuffer := max n 1 }

def backoff (s : FrameworkSettings) : Duration := .ofMillis s.reconnectBackoff

/-- Where the doubling of the wait stops; without it the wait stays the same. -/
def backoffMax (s : FrameworkSettings) : Option Duration :=
  if 0 < s.reconnectBackoffMax then some (.ofMillis s.reconnectBackoffMax) else none

def masterSettings (s : FrameworkSettings) : MasterSettings :=
  { endpoint := s.masterUrl
    connectTimeout := s.connectTimeout
    requestTimeout := s.requestTimeout }

def toFrameworkInfo (s : FrameworkSettings) : FrameworkInfo :=
  { user := s.user
    name := s.name
    id := s.frameworkId.map FrameworkId.mk
    failoverTimeout := some s.failoverTimeout
    checkpoint := some s.checkpoint
    role := some s.role
    principal := s.principal
    webuiUrl := s.webuiUrl
    capabilities := [Capability.taskKillingState] }

def masterUrlVariable : String := "TETHER_MASTER_URL"

def failoverVariable : String := "TETHER_FAILOVER_TIMEOUT_SECS"

def isWebUrl (s : String) : Bool := s.startsWith "http://" || s.startsWith "https://"

def failoverOf (env : EnvironmentVariables) : Except FrameworkError Binary64 :=
  match env.text? failoverVariable with
  | none => .ok .zero
  | some "" =>
    .error (.settings ("invalid " ++ failoverVariable ++ ": cannot parse float from empty string"))
  | some s =>
    match Binary64.read? s.toList with
    | none => .error (.settings ("invalid " ++ failoverVariable ++ ": invalid float literal"))
    | some x => .ok x

/-- The settings the environment asks for. A bad master or failover timeout is an error; any
other bad number leaves the usual one. -/
def ofEnvironment (env : EnvironmentVariables) : Except FrameworkError FrameworkSettings := do
  let masterUrl := (env.text? masterUrlVariable).getD "http://127.0.0.1:5050"
  if !isWebUrl masterUrl then
    throw (.settings ("invalid " ++ masterUrlVariable ++ ": " ++ masterUrl ++
      " (expected http:// or https://)"))
  let failover ← failoverOf env
  pure
    { masterUrl := masterUrl
      name := (env.text? "TETHER_FRAMEWORK_NAME").getD "tether"
      user := (env.text? "TETHER_FRAMEWORK_USER").getD "root"
      role := (env.text? "TETHER_FRAMEWORK_ROLE").getD "*"
      principal := env.text? "TETHER_FRAMEWORK_PRINCIPAL"
      frameworkId := (env.text? "TETHER_FRAMEWORK_ID").filter (· ≠ "")
      failoverTimeout := failover
      checkpoint := ["true","1"].contains ((env.text? "TETHER_CHECKPOINT").getD "")
      webuiUrl := env.text? "TETHER_WEBUI_URL"
      reconnectBackoff := (env.word? "TETHER_RECONNECT_BACKOFF_MS").getD 2000
      reconnectBackoffMax := (env.word? "TETHER_RECONNECT_BACKOFF_MAX_MS").getD 0
      connectTimeout := (env.word? "TETHER_CONNECT_TIMEOUT_MS").getD 10000
      requestTimeout := (env.word? "TETHER_REQUEST_TIMEOUT_MS").getD 0
      eventBuffer := ((env.word? "TETHER_EVENT_BUFFER").filter (0 < ·)).getD 256 }

end FrameworkSettings
end ClusterFramework
