import ClusterFramework.Binary64.Basic
import ClusterFramework.Dictionary

/-! Task definitions as users write them. -/
namespace ClusterFramework
namespace Definition

structure UriSpec where
  uri : String
  extract : Bool := false
  executable : Bool := false
  cache : Bool := false
  deriving DecidableEq,Repr

/-- Memory and disk are in megabytes; ports are numbers or ranges between commas. -/
structure ResourcesSpec where
  cpus : Binary64 := .zero
  mem : Binary64 := .zero
  disk : Binary64 := .zero
  ports : Option String := none
  deriving DecidableEq,Repr

inductive ContainerKind where
  | docker
  | mesos
  deriving DecidableEq,Repr

inductive NetworkMode where
  | host
  | bridge
  | none
  | user
  deriving DecidableEq,Repr

structure PortMappingSpec where
  hostPort : UInt32
  containerPort : UInt32
  protocol : Option String := none
  deriving DecidableEq,Repr

structure VolumeSpec where
  containerPath : Option String := none
  hostPath : Option String := none
  readOnly : Bool := false
  deriving DecidableEq,Repr

structure ContainerSpec where
  kind : ContainerKind := .docker
  image : Option String := none
  network : NetworkMode := .bridge
  privileged : Bool := false
  forcePull : Bool := false
  portMappings : List PortMappingSpec := []
  volumes : List VolumeSpec := []
  parameters : Dictionary String := .empty
  deriving DecidableEq,Repr

inductive CheckKind where
  | command
  | http
  | tcp
  deriving DecidableEq,Repr

structure HealthcheckSpec where
  kind : Option CheckKind := none
  port : UInt32 := 0
  path : Option String := none
  command : Option String := none
  delaySeconds : Option Binary64 := none
  intervalSeconds : Option Binary64 := none
  timeoutSeconds : Option Binary64 := none
  gracePeriodSeconds : Option Binary64 := none
  consecutiveFailures : Option UInt32 := none
  deriving DecidableEq,Repr

structure RetrySpec where
  maxRetries : UInt32
  retryTimeMs : UInt64 := 1000
  backoff : Bool := false
  deriving DecidableEq,Repr

/-- With arguments the command runs without a shell. -/
structure TaskSpec where
  id : String
  name : String
  cmd : Option String := none
  args : List String := []
  user : Option String := none
  uris : List UriSpec := []
  env : Dictionary String := .empty
  resources : ResourcesSpec := {}
  container : Option ContainerSpec := none
  healthcheck : Option HealthcheckSpec := none
  labels : Dictionary String := .empty
  retry : Option RetrySpec := none
  deriving DecidableEq,Repr

def ContainerKind.names : List (String × ContainerKind) := [("docker",.docker),("mesos",.mesos)]

def ContainerKind.name : ContainerKind → String
  | docker => "docker"
  | mesos => "mesos"

def NetworkMode.names : List (String × NetworkMode) :=
  [("host",.host),("bridge",.bridge),("none",.none),("user",.user)]

def NetworkMode.name : NetworkMode → String
  | host => "host"
  | bridge => "bridge"
  | none => "none"
  | user => "user"

def CheckKind.names : List (String × CheckKind) :=
  [("command",.command),("http",.http),("tcp",.tcp)]

def CheckKind.name : CheckKind → String
  | command => "command"
  | http => "http"
  | tcp => "tcp"

@[simp] theorem ContainerKind.lookup_name (k : ContainerKind) : names.lookup k.name = some k := by
  cases k <;> rfl

@[simp] theorem NetworkMode.lookup_name (m : NetworkMode) : names.lookup m.name = some m := by
  cases m <;> rfl

@[simp] theorem CheckKind.lookup_name (k : CheckKind) : names.lookup k.name = some k := by
  cases k <;> rfl

end Definition
end ClusterFramework
