import ClusterFramework.Message.Launch

/-! Offers, what a framework does with them, and the reports on tasks. -/
namespace ClusterFramework

open Wire WireForm

/-- Resources that the master advertises on behalf of one agent. -/
structure Offer where
  id : Option OfferId := none
  frameworkId : Option FrameworkId := none
  agentId : Option AgentId := none
  hostname : String := ""
  resources : List Resource := []
  executorIds : List ExecutorId := []
  deriving DecidableEq,Repr

instance Offer.instWireForm : WireForm Offer where
  schema :=
    .child 1 "id" (schema OfferId) <|
    .child 2 "framework_id" (schema FrameworkId) <|
    .child 3 "agent_id" (schema AgentId) <|
    .field 4 "hostname" .plain .string <|
    .children 5 "resources" (schema Resource) <|
    .children 6 "executor_ids" (schema ExecutorId) .done
  toRecord m := (toChild m.id,toChild m.frameworkId,toChild m.agentId,m.hostname,
    toChildren m.resources,toChildren m.executorIds,())
  ofRecord
    | (id,frameworkId,agentId,hostname,resources,executorIds,()) =>
      ⟨ofChild id,ofChild frameworkId,ofChild agentId,hostname,ofChildren resources,
       ofChildren executorIds⟩
  ofRecord_toRecord _ := by simp
  toRecord_ofRecord _ := by simp

/-- A request to give resources back. -/
structure InverseOffer where
  id : Option OfferId := none
  frameworkId : Option FrameworkId := none
  agentId : Option AgentId := none
  resources : List Resource := []
  deriving DecidableEq,Repr

instance InverseOffer.instWireForm : WireForm InverseOffer where
  schema :=
    .child 1 "id" (schema OfferId) <|
    .child 3 "framework_id" (schema FrameworkId) <|
    .child 4 "agent_id" (schema AgentId) <|
    .children 6 "resources" (schema Resource) .done
  toRecord m := (toChild m.id,toChild m.frameworkId,toChild m.agentId,toChildren m.resources,())
  ofRecord
    | (id,frameworkId,agentId,resources,()) =>
      ⟨ofChild id,ofChild frameworkId,ofChild agentId,ofChildren resources⟩
  ofRecord_toRecord _ := by simp
  toRecord_ofRecord _ := by simp

structure Launch where
  taskInfos : List TaskInfo := []
  deriving DecidableEq,Repr

instance Launch.instWireForm : WireForm Launch where
  schema := .children 1 "task_infos" (schema TaskInfo) .done
  toRecord m := (toChildren m.taskInfos,())
  ofRecord | (taskInfos,()) => ⟨ofChildren taskInfos⟩
  ofRecord_toRecord _ := by simp
  toRecord_ofRecord _ := by simp

structure Operation where
  kind : Int32 := 0
  launch : Option Launch := none
  deriving DecidableEq,Repr

instance Operation.instWireForm : WireForm Operation where
  schema :=
    .field 1 "type" .plain (.enumeration 0) <|
    .child 2 "launch" (schema Launch) .done
  toRecord m := (m.kind,toChild m.launch,())
  ofRecord | (kind,launch,()) => ⟨kind,ofChild launch⟩
  ofRecord_toRecord _ := by simp
  toRecord_ofRecord _ := by simp

namespace Operation

def launchKind : Int32 := 1

def ofLaunch (tasks : List TaskInfo) : Operation := ⟨launchKind,some ⟨tasks⟩⟩

end Operation

structure ResourceRequest where
  agentId : Option AgentId := none
  resources : List Resource := []
  deriving DecidableEq,Repr

instance ResourceRequest.instWireForm : WireForm ResourceRequest where
  schema :=
    .child 1 "agent_id" (schema AgentId) <|
    .children 2 "resources" (schema Resource) .done
  toRecord m := (toChild m.agentId,toChildren m.resources,())
  ofRecord | (agentId,resources,()) => ⟨ofChild agentId,ofChildren resources⟩
  ofRecord_toRecord _ := by simp
  toRecord_ofRecord _ := by simp

structure TaskStatus where
  taskId : Option TaskId := none
  state : Int32 := 0
  data : Option Octets := none
  message : Option String := none
  agentId : Option AgentId := none
  timestamp : Option Binary64 := none
  executorId : Option ExecutorId := none
  healthy : Option Bool := none
  source : Option Int32 := none
  reason : Option Int32 := none
  uuid : Option Octets := none
  labels : Option Labels := none
  deriving DecidableEq,Repr

instance TaskStatus.instWireForm : WireForm TaskStatus where
  schema :=
    .child 1 "task_id" (schema TaskId) <|
    .field 2 "state" .plain (.enumeration 0) <|
    .field 3 "data" .optional .bytes <|
    .field 4 "message" .optional .string <|
    .child 5 "agent_id" (schema AgentId) <|
    .field 6 "timestamp" .optional .double <|
    .child 7 "executor_id" (schema ExecutorId) <|
    .field 8 "healthy" .optional .bool <|
    .field 9 "source" .optional (.enumeration 0) <|
    .field 10 "reason" .optional .int32 <|
    .field 11 "uuid" .optional .bytes <|
    .child 12 "labels" (schema Labels) .done
  toRecord m := (toChild m.taskId,m.state,m.data,m.message,toChild m.agentId,m.timestamp,
    toChild m.executorId,m.healthy,m.source,m.reason,m.uuid,toChild m.labels,())
  ofRecord
    | (taskId,state,data,message,agentId,timestamp,executorId,healthy,source,reason,uuid,labels,
       ()) =>
      ⟨ofChild taskId,state,data,message,ofChild agentId,timestamp,ofChild executorId,healthy,
       source,reason,uuid,ofChild labels⟩
  ofRecord_toRecord _ := by simp
  toRecord_ofRecord _ := by simp

end ClusterFramework
