import ClusterFramework.Message.Offer

/-! The envelope of every request from a framework to the master. -/
namespace ClusterFramework

open Wire WireForm

structure Call.Subscribe where
  frameworkInfo : Option FrameworkInfo := none
  deriving DecidableEq,Repr

instance Call.Subscribe.instWireForm : WireForm Call.Subscribe where
  schema := .child 1 "framework_info" (schema FrameworkInfo) .done
  toRecord m := (toChild m.frameworkInfo,())
  ofRecord | (frameworkInfo,()) => ⟨ofChild frameworkInfo⟩
  ofRecord_toRecord _ := by simp
  toRecord_ofRecord _ := by simp

structure Call.Accept where
  offerIds : List OfferId := []
  operations : List Operation := []
  filters : Option Filters := none
  deriving DecidableEq,Repr

instance Call.Accept.instWireForm : WireForm Call.Accept where
  schema :=
    .children 1 "offer_ids" (schema OfferId) <|
    .children 2 "operations" (schema Operation) <|
    .child 3 "filters" (schema Filters) .done
  toRecord m := (toChildren m.offerIds,toChildren m.operations,toChild m.filters,())
  ofRecord
    | (offerIds,operations,filters,()) =>
      ⟨ofChildren offerIds,ofChildren operations,ofChild filters⟩
  ofRecord_toRecord _ := by simp
  toRecord_ofRecord _ := by simp

structure Call.Decline where
  offerIds : List OfferId := []
  filters : Option Filters := none
  deriving DecidableEq,Repr

instance Call.Decline.instWireForm : WireForm Call.Decline where
  schema :=
    .children 1 "offer_ids" (schema OfferId) <|
    .child 2 "filters" (schema Filters) .done
  toRecord m := (toChildren m.offerIds,toChild m.filters,())
  ofRecord | (offerIds,filters,()) => ⟨ofChildren offerIds,ofChild filters⟩
  ofRecord_toRecord _ := by simp
  toRecord_ofRecord _ := by simp

structure Call.Revive where
  roles : List String := []
  deriving DecidableEq,Repr

instance Call.Revive.instWireForm : WireForm Call.Revive where
  schema := .field 1 "roles" .repeated .string .done
  toRecord m := (m.roles,())
  ofRecord | (roles,()) => ⟨roles⟩
  ofRecord_toRecord _ := by simp
  toRecord_ofRecord _ := by simp

structure Call.Suppress where
  roles : List String := []
  deriving DecidableEq,Repr

instance Call.Suppress.instWireForm : WireForm Call.Suppress where
  schema := .field 1 "roles" .repeated .string .done
  toRecord m := (m.roles,())
  ofRecord | (roles,()) => ⟨roles⟩
  ofRecord_toRecord _ := by simp
  toRecord_ofRecord _ := by simp

structure Call.Kill where
  taskId : Option TaskId := none
  agentId : Option AgentId := none
  killPolicy : Option KillPolicy := none
  deriving DecidableEq,Repr

instance Call.Kill.instWireForm : WireForm Call.Kill where
  schema :=
    .child 1 "task_id" (schema TaskId) <|
    .child 2 "agent_id" (schema AgentId) <|
    .child 3 "kill_policy" (schema KillPolicy) .done
  toRecord m := (toChild m.taskId,toChild m.agentId,toChild m.killPolicy,())
  ofRecord | (taskId,agentId,killPolicy,()) => ⟨ofChild taskId,ofChild agentId,ofChild killPolicy⟩
  ofRecord_toRecord _ := by simp
  toRecord_ofRecord _ := by simp

structure Call.Shutdown where
  executorId : Option ExecutorId := none
  agentId : Option AgentId := none
  deriving DecidableEq,Repr

instance Call.Shutdown.instWireForm : WireForm Call.Shutdown where
  schema :=
    .child 1 "executor_id" (schema ExecutorId) <|
    .child 2 "agent_id" (schema AgentId) .done
  toRecord m := (toChild m.executorId,toChild m.agentId,())
  ofRecord | (executorId,agentId,()) => ⟨ofChild executorId,ofChild agentId⟩
  ofRecord_toRecord _ := by simp
  toRecord_ofRecord _ := by simp

structure Call.Acknowledge where
  agentId : Option AgentId := none
  taskId : Option TaskId := none
  uuid : Octets := []
  deriving DecidableEq,Repr

instance Call.Acknowledge.instWireForm : WireForm Call.Acknowledge where
  schema :=
    .child 1 "agent_id" (schema AgentId) <|
    .child 2 "task_id" (schema TaskId) <|
    .field 3 "uuid" .plain .bytes .done
  toRecord m := (toChild m.agentId,toChild m.taskId,m.uuid,())
  ofRecord | (agentId,taskId,uuid,()) => ⟨ofChild agentId,ofChild taskId,uuid⟩
  ofRecord_toRecord _ := by simp
  toRecord_ofRecord _ := by simp

structure Call.ReconcileTask where
  taskId : Option TaskId := none
  agentId : Option AgentId := none
  deriving DecidableEq,Repr

instance Call.ReconcileTask.instWireForm : WireForm Call.ReconcileTask where
  schema :=
    .child 1 "task_id" (schema TaskId) <|
    .child 2 "agent_id" (schema AgentId) .done
  toRecord m := (toChild m.taskId,toChild m.agentId,())
  ofRecord | (taskId,agentId,()) => ⟨ofChild taskId,ofChild agentId⟩
  ofRecord_toRecord _ := by simp
  toRecord_ofRecord _ := by simp

structure Call.Reconcile where
  tasks : List Call.ReconcileTask := []
  deriving DecidableEq,Repr

instance Call.Reconcile.instWireForm : WireForm Call.Reconcile where
  schema := .children 1 "tasks" (schema Call.ReconcileTask) .done
  toRecord m := (toChildren m.tasks,())
  ofRecord | (tasks,()) => ⟨ofChildren tasks⟩
  ofRecord_toRecord _ := by simp
  toRecord_ofRecord _ := by simp

structure Call.Message where
  agentId : Option AgentId := none
  executorId : Option ExecutorId := none
  data : Octets := []
  deriving DecidableEq,Repr

instance Call.Message.instWireForm : WireForm Call.Message where
  schema :=
    .child 1 "agent_id" (schema AgentId) <|
    .child 2 "executor_id" (schema ExecutorId) <|
    .field 3 "data" .plain .bytes .done
  toRecord m := (toChild m.agentId,toChild m.executorId,m.data,())
  ofRecord | (agentId,executorId,data,()) => ⟨ofChild agentId,ofChild executorId,data⟩
  ofRecord_toRecord _ := by simp
  toRecord_ofRecord _ := by simp

structure Call.Request where
  requests : List ResourceRequest := []
  deriving DecidableEq,Repr

instance Call.Request.instWireForm : WireForm Call.Request where
  schema := .children 1 "requests" (schema ResourceRequest) .done
  toRecord m := (toChildren m.requests,())
  ofRecord | (requests,()) => ⟨ofChildren requests⟩
  ofRecord_toRecord _ := by simp
  toRecord_ofRecord _ := by simp

structure Call where
  frameworkId : Option FrameworkId := none
  kind : Int32 := 0
  subscribe : Option Call.Subscribe := none
  accept : Option Call.Accept := none
  decline : Option Call.Decline := none
  kill : Option Call.Kill := none
  shutdown : Option Call.Shutdown := none
  acknowledge : Option Call.Acknowledge := none
  reconcile : Option Call.Reconcile := none
  message : Option Call.Message := none
  request : Option Call.Request := none
  revive : Option Call.Revive := none
  suppress : Option Call.Suppress := none
  deriving DecidableEq,Repr

instance Call.instWireForm : WireForm Call where
  schema :=
    .child 1 "framework_id" (schema FrameworkId) <|
    .field 2 "type" .plain (.enumeration 0) <|
    .child 3 "subscribe" (schema Call.Subscribe) <|
    .child 4 "accept" (schema Call.Accept) <|
    .child 5 "decline" (schema Call.Decline) <|
    .child 6 "kill" (schema Call.Kill) <|
    .child 7 "shutdown" (schema Call.Shutdown) <|
    .child 8 "acknowledge" (schema Call.Acknowledge) <|
    .child 9 "reconcile" (schema Call.Reconcile) <|
    .child 10 "message" (schema Call.Message) <|
    .child 11 "request" (schema Call.Request) <|
    .child 15 "revive" (schema Call.Revive) <|
    .child 16 "suppress" (schema Call.Suppress) .done
  toRecord m := (toChild m.frameworkId,m.kind,toChild m.subscribe,toChild m.accept,
    toChild m.decline,toChild m.kill,toChild m.shutdown,toChild m.acknowledge,
    toChild m.reconcile,toChild m.message,toChild m.request,toChild m.revive,toChild m.suppress,
    ())
  ofRecord
    | (frameworkId,kind,subscribe,accept,decline,kill,shutdown,acknowledge,reconcile,message,
       request,revive,suppress,()) =>
      ⟨ofChild frameworkId,kind,ofChild subscribe,ofChild accept,ofChild decline,ofChild kill,
       ofChild shutdown,ofChild acknowledge,ofChild reconcile,ofChild message,ofChild request,
       ofChild revive,ofChild suppress⟩
  ofRecord_toRecord _ := by simp
  toRecord_ofRecord _ := by simp

/-- What a call asks for. -/
inductive Call.Kind where
  | unknown
  | subscribe
  | teardown
  | accept
  | decline
  | revive
  | kill
  | shutdown
  | acknowledge
  | reconcile
  | message
  | request
  | suppress
  deriving DecidableEq,Repr

namespace Call.Kind

def code : Kind → Int32
  | unknown => 0
  | subscribe => 1
  | teardown => 2
  | accept => 3
  | decline => 4
  | revive => 5
  | kill => 6
  | shutdown => 7
  | acknowledge => 8
  | reconcile => 9
  | message => 10
  | request => 11
  | suppress => 12

def name : Kind → String
  | unknown => "Unknown"
  | subscribe => "Subscribe"
  | teardown => "Teardown"
  | accept => "Accept"
  | decline => "Decline"
  | revive => "Revive"
  | kill => "Kill"
  | shutdown => "Shutdown"
  | acknowledge => "Acknowledge"
  | reconcile => "Reconcile"
  | message => "Message"
  | request => "Request"
  | suppress => "Suppress"

def all : List Kind :=
  [unknown,subscribe,teardown,accept,decline,revive,kill,shutdown,acknowledge,reconcile,
    message,request,suppress]

/-- An unrecognised number is of no known kind. -/
def ofCode (n : Int32) : Kind := (all.find? fun k => k.code = n).getD unknown

@[simp] theorem ofCode_code (k : Kind) : ofCode k.code = k := by cases k <;> rfl

end Call.Kind

def Call.kindOf (c : Call) : Call.Kind := .ofCode c.kind

end ClusterFramework
