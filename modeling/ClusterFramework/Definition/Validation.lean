import ClusterFramework.Definition.Ports
import ClusterFramework.Definition.Reading
import ClusterFramework.Task

/-! From a definition to a task. The conditions on a definition are checked in a fixed
order, and the first one that fails is reported. -/
namespace ClusterFramework
namespace Definition

inductive SpecError where
  | invalidJson
  | badPortRange (ports : String)
  | missingHealthcheckType
  | missingHttpPath
  | volumePath (reason : String)
  | missingField (name : String)
  deriving DecidableEq,Repr

def SpecError.message : SpecError → String
  | invalidJson => "invalid JSON"
  | badPortRange ports => "invalid port range: " ++ ports
  | missingHealthcheckType => "healthcheck has no type"
  | missingHttpPath => "http healthcheck has no path"
  | volumePath reason => "invalid volume path: " ++ reason
  | missingField name => "missing field: " ++ name

/-- The port ranges that a text gives; the error shows the whole text. -/
def readPortRanges (s : String) : Except SpecError (List (UInt64 × UInt64)) :=
  match portRanges? s with
  | none => .error (.badPortRange s)
  | some ranges => .ok ranges

namespace ResourcesSpec

/-- The scalar resources asked for, in a fixed order; what is not above zero is not. -/
def scalars (r : ResourcesSpec) : List Resource :=
  ([("cpus",r.cpus),("mem",r.mem),("disk",r.disk)].filter fun a => Binary64.lt .zero a.2).map
    fun a => Resource.ofScalar a.1 a.2

def toResources (r : ResourcesSpec) : Except SpecError (List Resource) :=
  match r.ports.filter fun p => !Text.allBlank p with
  | none => .ok r.scalars
  | some ports => do
    let ranges ← readPortRanges ports
    pure (r.scalars ++ [Resource.ofRanges "ports" ranges])

end ResourcesSpec

namespace VolumeSpec

def isAbsolute (path : String) : Bool := path.toList.head? = some '/'

def toVolume (v : VolumeSpec) : Except SpecError Volume :=
  match v.containerPath, v.hostPath with
  | some containerPath, some hostPath =>
    if !isAbsolute containerPath then .error (.volumePath containerPath)
    else if !isAbsolute hostPath then .error (.volumePath hostPath)
    else .ok ⟨containerPath,some hostPath,if v.readOnly then Volume.readOnly else Volume.readWrite⟩
  | some path, none =>
    .error (.volumePath (path ++ " (containerPath and hostPath must be set together)"))
  | none, some path =>
    .error (.volumePath (path ++ " (containerPath and hostPath must be set together)"))
  | none, none => .error (.volumePath "volume has neither containerPath nor hostPath")

end VolumeSpec

def NetworkMode.code : NetworkMode → Int32
  | host => 1
  | bridge => 2
  | none => 3
  | user => 4

def ContainerKind.code : ContainerKind → Int32
  | docker => 1
  | mesos => 2

namespace ContainerSpec

def toDocker (c : ContainerSpec) (image : String) : DockerInfo :=
  { image := image
    network := c.network.code
    portMappings := c.portMappings.map fun m => ⟨m.hostPort,m.containerPort,m.protocol⟩
    privileged := some c.privileged
    parameters := c.parameters.entries.map fun e => ⟨e.1,e.2⟩
    forcePullImage := some c.forcePull }

/-- Volumes are looked at before the image. -/
def toContainer (c : ContainerSpec) : Except SpecError ContainerInfo := do
  let volumes ← c.volumes.mapM VolumeSpec.toVolume
  match c.kind with
  | .mesos => pure { kind := c.kind.code, volumes := volumes }
  | .docker =>
    match c.image.filter (· ≠ "") with
    | none => throw (.missingField "container.image")
    | some image =>
      pure { kind := c.kind.code, volumes := volumes, docker := some (c.toDocker image) }

end ContainerSpec

namespace HealthcheckSpec

def timing (h : HealthcheckSpec) : HealthCheck :=
  { delaySeconds := h.delaySeconds
    intervalSeconds := h.intervalSeconds
    timeoutSeconds := h.timeoutSeconds
    consecutiveFailures := h.consecutiveFailures
    gracePeriodSeconds := h.gracePeriodSeconds }

def toHealthCheck (h : HealthcheckSpec) : Except SpecError HealthCheck :=
  match h.kind with
  | none => .error .missingHealthcheckType
  | some .http =>
    match h.path.filter (· ≠ "") with
    | none => .error .missingHttpPath
    | some path =>
      .ok { h.timing with
        kind := HealthCheck.httpKind
        http := some { port := h.port, path := some path } }
  | some .tcp => .ok { h.timing with kind := HealthCheck.tcpKind, tcp := some ⟨h.port⟩ }
  | some .command =>
    match h.command with
    | none => .error (.missingField "healthcheck.command")
    | some command =>
      .ok { h.timing with
        kind := HealthCheck.commandKind
        command := some { value := some command, shell := some true } }

end HealthcheckSpec

namespace TaskSpec

/-- A container without a command runs what its image says, without a shell. -/
def toCommand (t : TaskSpec) : CommandInfo :=
  { value := t.cmd
    shell := some (t.cmd.isSome && t.args.isEmpty)
    arguments := t.args
    user := t.user
    uris := t.uris.map fun u =>
      { value := u.uri
        executable := some u.executable
        extract := some u.extract
        cache := some u.cache }
    environment :=
      if t.env.isEmpty then none else some ⟨t.env.entries.map fun e => ⟨e.1,e.2⟩⟩ }

def toLabels (t : TaskSpec) : Option Labels :=
  if t.labels.isEmpty then none else some ⟨t.labels.entries.map fun e => ⟨e.1,some e.2⟩⟩

def toRetry (t : TaskSpec) : Option RetryPolicy :=
  t.retry.map fun r =>
    { name := "task-" ++ t.id
      maxRetries := r.maxRetries
      retryTime := .ofMillis r.retryTimeMs
      backoff := r.backoff }

def toTask (t : TaskSpec) : Except SpecError Task := do
  if Text.allBlank t.id then throw (.missingField "id")
  if Text.allBlank t.name then throw (.missingField "name")
  if t.cmd.isNone && t.container.isNone then throw (.missingField "cmd")
  let resources ← t.resources.toResources
  let healthCheck ← t.healthcheck.mapM HealthcheckSpec.toHealthCheck
  let container ← t.container.mapM ContainerSpec.toContainer
  pure
    { id := t.id
      name := t.name
      command := some t.toCommand
      container := container
      labels := t.toLabels
      healthCheck := healthCheck
      resources := resources
      retry := t.toRetry }

end TaskSpec

def readTask (text : String) : Except SpecError Task :=
  match TaskSpec.read? text with
  | none => .error .invalidJson
  | some t => t.toTask

/-- The tasks that an array of definitions defines. All of it is read before any of it is
checked. -/
def readTasks (text : String) : Except SpecError (List Task) :=
  match TaskSpec.readAll? text with
  | none => .error .invalidJson
  | some ts => ts.mapM TaskSpec.toTask

end Definition
end ClusterFramework
