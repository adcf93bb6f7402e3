import ClusterFramework.Wire.Form

/-! Identifiers, labels, and how master and framework introduce themselves. -/
namespace ClusterFramework

open Wire WireForm

structure FrameworkId where
  value : String := ""
  deriving DecidableEq,Repr

instance FrameworkId.instWireForm : WireForm FrameworkId where
  schema := .field 1 "value" .plain .string .done
  toRecord m := (m.value,())
  ofRecord | (value,()) => ⟨value⟩
  ofRecord_toRecord _ := by simp
  toRecord_ofRecord _ := by simp

structure OfferId where
  value : String := ""
  deriving DecidableEq,Repr

instance OfferId.instWireForm : WireForm OfferId where
  schema := .field 1 "value" .plain .string .done
  toRecord m := (m.value,())
  ofRecord | (value,()) => ⟨value⟩
  ofRecord_toRecord _ := by simp
  toRecord_ofRecord _ := by simp

structure AgentId where
  value : String := ""
  deriving DecidableEq,Repr

instance AgentId.instWireForm : WireForm AgentId where
  schema := .field 1 "value" .plain .string .done
  toRecord m := (m.value,())
  ofRecord | (value,()) => ⟨value⟩
  ofRecord_toRecord _ := by simp
  toRecord_ofRecord _ := by simp

structure TaskId where
  value : String := ""
  deriving DecidableEq,Repr

instance TaskId.instWireForm : WireForm TaskId where
  schema := .field 1 "value" .plain .string .done
  toRecord m := (m.value,())
  ofRecord | (value,()) => ⟨value⟩
  ofRecord_toRecord _ := by simp
  toRecord_ofRecord _ := by simp

structure ExecutorId where
  value : String := ""
  deriving DecidableEq,Repr

instance ExecutorId.instWireForm : WireForm ExecutorId where
  schema := .field 1 "value" .plain .string .done
  toRecord m := (m.value,())
  ofRecord | (value,()) => ⟨value⟩
  ofRecord_toRecord _ := by simp
  toRecord_ofRecord _ := by simp

structure Label where
  key : String := ""
  value : Option String := none
  deriving DecidableEq,Repr

instance Label.instWireForm : WireForm Label where
  schema :=
    .field 1 "key" .plain .string <|
    .field 2 "value" .optional .string .done
  toRecord m := (m.key,m.value,())
  ofRecord | (key,value,()) => ⟨key,value⟩
  ofRecord_toRecord _ := by simp
  toRecord_ofRecord _ := by simp

structure Labels where
  labels : List Label := []
  deriving DecidableEq,Repr

instance Labels.instWireForm : WireForm Labels where
  schema := .children 1 "labels" (schema Label) .done
  toRecord m := (toChildren m.labels,())
  ofRecord | (labels,()) => ⟨ofChildren labels⟩
  ofRecord_toRecord _ := by simp
  toRecord_ofRecord _ := by simp

structure Parameter where
  key : String := ""
  value : String := ""
  deriving DecidableEq,Repr

instance Parameter.instWireForm : WireForm Parameter where
  schema :=
    .field 1 "key" .plain .string <|
    .field 2 "value" .plain .string .done
  toRecord m := (m.key,m.value,())
  ofRecord | (key,value,()) => ⟨key,value⟩
  ofRecord_toRecord _ := by simp
  toRecord_ofRecord _ := by simp

/-- What a framework is prepared to handle. -/
structure Capability where
  kind : Int32 := 0
  deriving DecidableEq,Repr

instance Capability.instWireForm : WireForm Capability where
  schema := .field 1 "type" .plain (.enumeration 0) .done
  toRecord m := (m.kind,())
  ofRecord | (kind,()) => ⟨kind⟩
  ofRecord_toRecord _ := by simp
  toRecord_ofRecord _ := by simp

/-- The capability of understanding the state between a kill and its end. -/
def Capability.taskKillingState : Capability := ⟨2⟩

/-- A framework as the master sees it. -/
structure FrameworkInfo where
  user : String := ""
  name : String := ""
  id : Option FrameworkId := none
  failoverTimeout : Option Binary64 := none
  checkpoint : Option Bool := none
  role : Option String := none
  hostname : Option String := none
  principal : Option String := none
  webuiUrl : Option String := none
  capabilities : List Capability := []
  labels : Option Labels := none
  deriving DecidableEq,Repr

instance FrameworkInfo.instWireForm : WireForm FrameworkInfo where
  schema :=
    .field 1 "user" .plain .string <|
    .field 2 "name" .plain .string <|
    .child 3 "id" (schema FrameworkId) <|
    .field 4 "failover_timeout" .optional .double <|
    .field 5 "checkpoint" .optional .bool <|
    .field 6 "role" .optional .string <|
    .field 7 "hostname" .optional .string <|
    .field 8 "principal" .optional .string <|
    .field 9 "webui_url" .optional .string <|
    .children 10 "capabilities" (schema Capability) <|
    .child 11 "labels" (schema Labels) .done
  toRecord m := (m.user,m.name,toChild m.id,m.failoverTimeout,m.checkpoint,m.role,m.hostname,
    m.principal,m.webuiUrl,toChildren m.capabilities,toChild m.labels,())
  ofRecord
    | (user,name,id,failoverTimeout,checkpoint,role,hostname,principal,webuiUrl,capabilities,
       labels,()) =>
      ⟨user,name,ofChild id,failoverTimeout,checkpoint,role,hostname,principal,webuiUrl,
       ofChildren capabilities,ofChild labels⟩
  ofRecord_toRecord _ := by simp
  toRecord_ofRecord _ := by simp

structure MasterInfo where
  id : String := ""
  ip : UInt32 := 0
  port : UInt32 := 0
  pid : Option String := none
  hostname : Option String := none
  version : Option String := none
  deriving DecidableEq,Repr

instance MasterInfo.instWireForm : WireForm MasterInfo where
  schema :=
    .field 1 "id" .plain .string <|
    .field 2 "ip" .plain .uint32 <|
    .field 3 "port" .plain .uint32 <|
    .field 4 "pid" .optional .string <|
    .field 5 "hostname" .optional .string <|
    .field 6 "version" .optional .string .done
  toRecord m := (m.id,m.ip,m.port,m.pid,m.hostname,m.version,())
  ofRecord | (id,ip,port,pid,hostname,version,()) => ⟨id,ip,port,pid,hostname,version⟩
  ofRecord_toRecord _ := by simp
  toRecord_ofRecord _ := by simp

/-- How long the resources of an answered offer stay away. -/
structure Filters where
  refuseSeconds : Option Binary64 := none
  deriving DecidableEq,Repr

instance Filters.instWireForm : WireForm Filters where
  schema := .field 1 "refuse_seconds" .optional .double .done
  toRecord m := (m.refuseSeconds,())
  ofRecord | (refuseSeconds,()) => ⟨refuseSeconds⟩
  ofRecord_toRecord _ := by simp
  toRecord_ofRecord _ := by simp

structure DurationInfo where
  nanoseconds : Int64 := 0
  deriving DecidableEq,Repr

instance DurationInfo.instWireForm : WireForm DurationInfo where
  schema := .field 1 "nanoseconds" .plain .int64 .done
  toRecord m := (m.nanoseconds,())
  ofRecord | (nanoseconds,()) => ⟨nanoseconds⟩
  ofRecord_toRecord _ := by simp
  toRecord_ofRecord _ := by simp

structure KillPolicy where
  gracePeriod : Option DurationInfo := none
  deriving DecidableEq,Repr

instance KillPolicy.instWireForm : WireForm KillPolicy where
  schema := .child 1 "grace_period" (schema DurationInfo) .done
  toRecord m := (toChild m.gracePeriod,())
  ofRecord | (gracePeriod,()) => ⟨ofChild gracePeriod⟩
  ofRecord_toRecord _ := by simp
  toRecord_ofRecord _ := by simp

end ClusterFramework
