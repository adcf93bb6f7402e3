import ClusterFramework.Definition.Basic
import ClusterFramework.Json.Shape

/-! Task definitions from JSON, and JSON from task definitions. Members whose value is their
default may be left out by the writer of a definition; when one is printed, only absent
options and empty lists are. -/
namespace ClusterFramework
namespace Definition

open Json

namespace UriSpec

def ofJson? (v : Json) : Option UriSpec :=
  match members? ["uri","extract","executable","cache"] v with
  | some [uri,extract,executable,cache] => do
    pure ⟨← required string? uri,← orElse false bool? extract,← orElse false bool? executable,
      ← orElse false bool? cache⟩
  | _ => none

def toJson (u : UriSpec) : Json :=
  object (member "uri" ofText u.uri ++ member "extract" bool u.extract ++
    member "executable" bool u.executable ++ member "cache" bool u.cache)

end UriSpec

namespace ResourcesSpec

def ofJson? (v : Json) : Option ResourcesSpec :=
  match members? ["cpus","mem","disk","ports"] v with
  | some [cpus,mem,disk,ports] => do
    pure ⟨← orElse .zero double? cpus,← orElse .zero double? mem,← orElse .zero double? disk,
      ← orElse none (option? string?) ports⟩
  | _ => none

def toJson (r : ResourcesSpec) : Json :=
  object (member "cpus" ofDouble r.cpus ++ member "mem" ofDouble r.mem ++
    member "disk" ofDouble r.disk ++ optionalMember "ports" ofText r.ports)

end ResourcesSpec

namespace PortMappingSpec

def ofJson? (v : Json) : Option PortMappingSpec :=
  match members? ["hostPort","containerPort","protocol"] v with
  | some [hostPort,containerPort,protocol] => do
    pure ⟨← required word32? hostPort,← required word32? containerPort,
      ← orElse none (option? string?) protocol⟩
  | _ => none

def toJson (m : PortMappingSpec) : Json :=
  object (member "hostPort" ofNat m.hostPort.toNat ++
    member "containerPort" ofNat m.containerPort.toNat ++
    optionalMember "protocol" ofText m.protocol)

end PortMappingSpec

namespace VolumeSpec

def ofJson? (v : Json) : Option VolumeSpec :=
  match members? ["containerPath","hostPath","readOnly"] v with
  | some [containerPath,hostPath,readOnly] => do
    pure ⟨← orElse none (option? string?) containerPath,← orElse none (option? string?) hostPath,
      ← orElse false bool? readOnly⟩
  | _ => none

def toJson (v : VolumeSpec) : Json :=
  object (optionalMember "containerPath" ofText v.containerPath ++
    optionalMember "hostPath" ofText v.hostPath ++ member "readOnly" bool v.readOnly)

end VolumeSpec

namespace ContainerSpec

def ofJson? (v : Json) : Option ContainerSpec :=
  match members? ["type","image","network","privileged","forcePull","portMappings","volumes",
      "parameters"] v with
  | some [kind,image,network,privileged,forcePull,portMappings,volumes,parameters] => do
    pure ⟨← orElse .docker (choice? ContainerKind.names) kind,
      ← orElse none (option? string?) image,
      ← orElse .bridge (choice? NetworkMode.names) network,
      ← orElse false bool? privileged,
      ← orElse false bool? forcePull,
      ← orElse [] (list? PortMappingSpec.ofJson?) portMappings,
      ← orElse [] (list? VolumeSpec.ofJson?) volumes,
      ← orElse .empty texts? parameters⟩
  | _ => none

def toJson (c : ContainerSpec) : Json :=
  object (member "type" ofText c.kind.name ++ optionalMember "image" ofText c.image ++
    member "network" ofText c.network.name ++ member "privileged" bool c.privileged ++
    member "forcePull" bool c.forcePull ++
    listMember "portMappings" PortMappingSpec.toJson c.portMappings ++
    listMember "volumes" VolumeSpec.toJson c.volumes ++ textsMember "parameters" c.parameters)

end ContainerSpec

namespace HealthcheckSpec

def ofJson? (v : Json) : Option HealthcheckSpec :=
  match members? ["type","port","path","command","delaySeconds","intervalSeconds",
      "timeoutSeconds","gracePeriodSeconds","consecutiveFailures"] v with
  | some [kind,port,path,command,delay,interval,timeout,grace,failures] => do
    pure ⟨← orElse none (option? (choice? CheckKind.names)) kind,
      ← orElse 0 word32? port,
      ← orElse none (option? string?) path,
      ← orElse none (option? string?) command,
      ← orElse none (option? double?) delay,
      ← orElse none (option? double?) interval,
      ← orElse none (option? double?) timeout,
      ← orElse none (option? double?) grace,
      ← orElse none (option? word32?) failures⟩
  | _ => none

def toJson (h : HealthcheckSpec) : Json :=
  object (optionalMember "type" (fun k => ofText (CheckKind.name k)) h.kind ++
    member "port" ofNat h.port.toNat ++ optionalMember "path" ofText h.path ++
    optionalMember "command" ofText h.command ++
    optionalMember "delaySeconds" ofDouble h.delaySeconds ++
    optionalMember "intervalSeconds" ofDouble h.intervalSeconds ++
    optionalMember "timeoutSeconds" ofDouble h.timeoutSeconds ++
    optionalMember "gracePeriodSeconds" ofDouble h.gracePeriodSeconds ++
    optionalMember "consecutiveFailures" (fun n => ofNat (UInt32.toNat n)) h.consecutiveFailures)

end HealthcheckSpec

namespace RetrySpec

def ofJson? (v : Json) : Option RetrySpec :=
  match members? ["maxRetries","retryTimeMs","backoff"] v with
  | some [maxRetries,retryTime,backoff] => do
    pure ⟨← required word32? maxRetries,← orElse 1000 word64? retryTime,
      ← orElse false bool? backoff⟩
  | _ => none

def toJson (r : RetrySpec) : Json :=
  object (member "maxRetries" ofNat r.maxRetries.toNat ++
    member "retryTimeMs" ofNat r.retryTimeMs.toNat ++ member "backoff" bool r.backoff)

end RetrySpec

namespace TaskSpec

def ofJson? (v : Json) : Option TaskSpec :=
  match members? ["id","name","cmd","args","user","uris","env","resources","container",
      "healthcheck","labels","retry"] v with
  | some [id,name,cmd,args,user,uris,env,resources,container,healthcheck,labels,retry] => do
    pure ⟨← required string? id,
      ← required string? name,
      ← orElse none (option? string?) cmd,
      ← orElse [] (list? string?) args,
      ← orElse none (option? string?) user,
      ← orElse [] (list? UriSpec.ofJson?) uris,
      ← orElse .empty texts? env,
      ← orElse {} ResourcesSpec.ofJson? resources,
      ← orElse none (option? ContainerSpec.ofJson?) container,
      ← orElse none (option? HealthcheckSpec.ofJson?) healthcheck,
      ← orElse .empty texts? labels,
      ← orElse none (option? RetrySpec.ofJson?) retry⟩
  | _ => none

def toJson (t : TaskSpec) : Json :=
  object (member "id" ofText t.id ++ member "name" ofText t.name ++
    optionalMember "cmd" ofText t.cmd ++ listMember "args" ofText t.args ++
    optionalMember "user" ofText t.user ++ listMember "uris" UriSpec.toJson t.uris ++
    textsMember "env" t.env ++ member "resources" ResourcesSpec.toJson t.resources ++
    optionalMember "container" ContainerSpec.toJson t.container ++
    optionalMember "healthcheck" HealthcheckSpec.toJson t.healthcheck ++
    textsMember "labels" t.labels ++ optionalMember "retry" RetrySpec.toJson t.retry)

/-- The definition a text holds. -/
def read? (text : String) : Option TaskSpec := (Json.parse? text).bind ofJson?

/-- The definitions an array holds. -/
def readAll? (text : String) : Option (List TaskSpec) := (Json.parse? text).bind (list? ofJson?)

def print (t : TaskSpec) : String := t.toJson.print

end TaskSpec
end Definition
end ClusterFramework
