import ClusterFramework.Message.Resource

/-! All that an agent needs to know to start a task. -/
namespace ClusterFramework

open Wire WireForm

structure Variable where
  name : String := ""
  value : String := ""
  deriving DecidableEq,Repr

instance Variable.instWireForm : WireForm Variable where
  schema :=
    .field 1 "name" .plain .string <|
    .field 2 "value" .plain .string .done
  toRecord m := (m.name,m.value,())
  ofRecord | (name,value,()) => ⟨name,value⟩
  ofRecord_toRecord _ := by simp
  toRecord_ofRecord _ := by simp

structure Environment where
  entries : List Variable := []
  deriving DecidableEq,Repr

instance Environment.instWireForm : WireForm Environment where
  schema := .children 1 "variables" (schema Variable) .done
  toRecord m := (toChildren m.entries,())
  ofRecord | (entries,()) => ⟨ofChildren entries⟩
  ofRecord_toRecord _ := by simp
  toRecord_ofRecord _ := by simp

/-- A file fetched before the command starts. -/
structure Uri where
  value : String := ""
  executable : Option Bool := none
  extract : Option Bool := none
  cache : Option Bool := none
  outputFile : Option String := none
  deriving DecidableEq,Repr

instance Uri.instWireForm : WireForm Uri where
  schema :=
    .field 1 "value" .plain .string <|
    .field 2 "executable" .optional .bool <|
    .field 3 "extract" .optional .bool <|
    .field 4 "cache" .optional .bool <|
    .field 5 "output_file" .optional .string .done
  toRecord m := (m.value,m.executable,m.extract,m.cache,m.outputFile,())
  ofRecord
    | (value,executable,extract,cache,outputFile,()) =>
      ⟨value,executable,extract,cache,outputFile⟩
  ofRecord_toRecord _ := by simp
  toRecord_ofRecord _ := by simp

structure CommandInfo where
  uris : List Uri := []
  environment : Option Environment := none
  value : Option String := none
  user : Option String := none
  shell : Option Bool := none
  arguments : List String := []
  deriving DecidableEq,Repr

instance CommandInfo.instWireForm : WireForm CommandInfo where
  schema :=
    .children 1 "uris" (schema Uri) <|
    .child 2 "environment" (schema Environment) <|
    .field 3 "value" .optional .string <|
    .field 5 "user" .optional .string <|
    .field 6 "shell" .optional .bool <|
    .field 7 "arguments" .repeated .string .done
  toRecord m := (toChildren m.uris,toChild m.environment,m.value,m.user,m.shell,m.arguments,())
  ofRecord
    | (uris,environment,value,user,shell,arguments,()) =>
      ⟨ofChildren uris,ofChild environment,value,user,shell,arguments⟩
  ofRecord_toRecord _ := by simp
  toRecord_ofRecord _ := by simp

structure PortMapping where
  hostPort : UInt32 := 0
  containerPort : UInt32 := 0
  protocol : Option String := none
  deriving DecidableEq,Repr

instance PortMapping.instWireForm : WireForm PortMapping where
  schema :=
    .field 1 "host_port" .plain .uint32 <|
    .field 2 "container_port" .plain .uint32 <|
    .field 3 "protocol" .optional .string .done
  toRecord m := (m.hostPort,m.containerPort,m.protocol,())
  ofRecord | (hostPort,containerPort,protocol,()) => ⟨hostPort,containerPort,protocol⟩
  ofRecord_toRecord _ := by simp
  toRecord_ofRecord _ := by simp

structure DockerInfo where
  image : String := ""
  network : Int32 := 1
  portMappings : List PortMapping := []
  privileged : Option Bool := none
  parameters : List Parameter := []
  forcePullImage : Option Bool := none
  deriving DecidableEq,Repr

instance DockerInfo.instWireForm : WireForm DockerInfo where
  schema :=
    .field 1 "image" .plain .string <|
    .field 2 "network" .plain (.enumeration 1) <|
    .children 3 "port_mappings" (schema PortMapping) <|
    .field 4 "privileged" .optional .bool <|
    .children 5 "parameters" (schema Parameter) <|
    .field 6 "force_pull_image" .optional .bool .done
  toRecord m := (m.image,m.network,toChildren m.portMappings,m.privileged,
    toChildren m.parameters,m.forcePullImage,())
  ofRecord
    | (image,network,portMappings,privileged,parameters,forcePullImage,()) =>
      ⟨image,network,ofChildren portMappings,privileged,ofChildren parameters,forcePullImage⟩
  ofRecord_toRecord _ := by simp
  toRecord_ofRecord _ := by simp

structure ContainerInfo where
  kind : Int32 := 1
  volumes : List Volume := []
  docker : Option DockerInfo := none
  hostname : Option String := none
  deriving DecidableEq,Repr

instance ContainerInfo.instWireForm : WireForm ContainerInfo where
  schema :=
    .field 1 "type" .plain (.enumeration 1) <|
    .children 2 "volumes" (schema Volume) <|
    .child 3 "docker" (schema DockerInfo) <|
    .field 4 "hostname" .optional .string .done
  toRecord m := (m.kind,toChildren m.volumes,toChild m.docker,m.hostname,())
  ofRecord
    | (kind,volumes,docker,hostname,()) =>
      ⟨kind,ofChildren volumes,ofChild docker,hostname⟩
  ofRecord_toRecord _ := by simp
  toRecord_ofRecord _ := by simp

structure HttpCheckInfo where
  port : UInt32 := 0
  path : Option String := none
  scheme : Option String := none
  statuses : List UInt32 := []
  deriving DecidableEq,Repr

instance HttpCheckInfo.instWireForm : WireForm HttpCheckInfo where
  schema :=
    .field 1 "port" .plain .uint32 <|
    .field 2 "path" .optional .string <|
    .field 3 "scheme" .optional .string <|
    .field 4 "statuses" .packed .uint32 .done
  toRecord m := (m.port,m.path,m.scheme,m.statuses,())
  ofRecord | (port,path,scheme,statuses,()) => ⟨port,path,scheme,statuses⟩
  ofRecord_toRecord _ := by simp
  toRecord_ofRecord _ := by simp

structure TcpCheckInfo where
  port : UInt32 := 0
  deriving DecidableEq,Repr

instance TcpCheckInfo.instWireForm : WireForm TcpCheckInfo where
  schema := .field 1 "port" .plain .uint32 .done
  toRecord m := (m.port,())
  ofRecord | (port,()) => ⟨port⟩
  ofRecord_toRecord _ := by simp
  toRecord_ofRecord _ := by simp

structure HealthCheck where
  http : Option HttpCheckInfo := none
  delaySeconds : Option Binary64 := none
  intervalSeconds : Option Binary64 := none
  timeoutSeconds : Option Binary64 := none
  consecutiveFailures : Option UInt32 := none
  gracePeriodSeconds : Option Binary64 := none
  command : Option CommandInfo := none
  kind : Int32 := 0
  tcp : Option TcpCheckInfo := none
  deriving DecidableEq,Repr

instance HealthCheck.instWireForm : WireForm HealthCheck where
  schema :=
    .child 1 "http" (schema HttpCheckInfo) <|
    .field 2 "delay_seconds" .optional .double <|
    .field 3 "interval_seconds" .optional .double <|
    .field 4 "timeout_seconds" .optional .double <|
    .field 5 "consecutive_failures" .optional .uint32 <|
    .field 6 "grace_period_seconds" .optional .double <|
    .child 7 "command" (schema CommandInfo) <|
    .field 8 "type" .plain (.enumeration 0) <|
    .child 9 "tcp" (schema TcpCheckInfo) .done
  toRecord m := (toChild m.http,m.delaySeconds,m.intervalSeconds,m.timeoutSeconds,
    m.consecutiveFailures,m.gracePeriodSeconds,toChild m.command,m.kind,toChild m.tcp,())
  ofRecord
    | (http,delaySeconds,intervalSeconds,timeoutSeconds,consecutiveFailures,gracePeriodSeconds,
       command,kind,tcp,()) =>
      ⟨ofChild http,delaySeconds,intervalSeconds,timeoutSeconds,consecutiveFailures,
       gracePeriodSeconds,ofChild command,kind,ofChild tcp⟩
  ofRecord_toRecord _ := by simp
  toRecord_ofRecord _ := by simp

namespace HealthCheck

def commandKind : Int32 := 1

def httpKind : Int32 := 2

def tcpKind : Int32 := 3

end HealthCheck

structure ExecutorInfo where
  executorId : Option ExecutorId := none
  data : Option Octets := none
  resources : List Resource := []
  command : Option CommandInfo := none
  frameworkId : Option FrameworkId := none
  name : Option String := none
  container : Option ContainerInfo := none
  deriving DecidableEq,Repr

instance ExecutorInfo.instWireForm : WireForm ExecutorInfo where
  schema :=
    .child 1 "executor_id" (schema ExecutorId) <|
    .field 4 "data" .optional .bytes <|
    .children 5 "resources" (schema Resource) <|
    .child 7 "command" (schema CommandInfo) <|
    .child 8 "framework_id" (schema FrameworkId) <|
    .field 9 "name" .optional .string <|
    .child 11 "container" (schema ContainerInfo) .done
  toRecord m := (toChild m.executorId,m.data,toChildren m.resources,toChild m.command,
    toChild m.frameworkId,m.name,toChild m.container,())
  ofRecord
    | (executorId,data,resources,command,frameworkId,name,container,()) =>
      ⟨ofChild executorId,data,ofChildren resources,ofChild command,ofChild frameworkId,name,
       ofChild container⟩
  ofRecord_toRecord _ := by simp
  toRecord_ofRecord _ := by simp

structure TaskInfo where
  name : String := ""
  taskId : Option TaskId := none
  agentId : Option AgentId := none
  resources : List Resource := []
  executor : Option ExecutorInfo := none
  data : Option Octets := none
  command : Option CommandInfo := none
  healthCheck : Option HealthCheck := none
  container : Option ContainerInfo := none
  labels : Option Labels := none
  deriving DecidableEq,Repr

instance TaskInfo.instWireForm : WireForm TaskInfo where
  schema :=
    .field 1 "name" .plain .string <|
    .child 2 "task_id" (schema TaskId) <|
    .child 3 "agent_id" (schema AgentId) <|
    .children 4 "resources" (schema Resource) <|
    .child 5 "executor" (schema ExecutorInfo) <|
    .field 6 "data" .optional .bytes <|
    .child 7 "command" (schema CommandInfo) <|
    .child 8 "health_check" (schema HealthCheck) <|
    .child 9 "container" (schema ContainerInfo) <|
    .child 10 "labels" (schema Labels) .done
  toRecord m := (m.name,toChild m.taskId,toChild m.agentId,toChildren m.resources,
    toChild m.executor,m.data,toChild m.command,toChild m.healthCheck,toChild m.container,
    toChild m.labels,())
  ofRecord
    | (name,taskId,agentId,resources,executor,data,command,healthCheck,container,labels,()) =>
      ⟨name,ofChild taskId,ofChild agentId,ofChildren resources,ofChild executor,data,
       ofChild command,ofChild healthCheck,ofChild container,ofChild labels⟩
  ofRecord_toRecord _ := by simp
  toRecord_ofRecord _ := by simp

end ClusterFramework
