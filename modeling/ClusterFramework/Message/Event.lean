import ClusterFramework.Message.Offer

/-! The envelope of every message from the master on the subscription stream. -/
namespace ClusterFramework

open Wire WireForm

structure Event.Subscribed where
  frameworkId : Option FrameworkId := none
  heartbeatIntervalSeconds : Option Binary64 := none
  masterInfo : Option MasterInfo := none
  deriving DecidableEq,Repr

instance Event.Subscribed.instWireForm : WireForm Event.Subscribed where
  schema :=
    .child 1 "framework_id" (schema FrameworkId) <|
    .field 2 "heartbeat_interval_seconds" .optional .double <|
    .child 3 "master_info" (schema MasterInfo) .done
  toRecord m := (toChild m.frameworkId,m.heartbeatIntervalSeconds,toChild m.masterInfo,())
  ofRecord
    | (frameworkId,heartbeatIntervalSeconds,masterInfo,()) =>
      ⟨ofChild frameworkId,heartbeatIntervalSeconds,ofChild masterInfo⟩
  ofRecord_toRecord _ := by simp
  toRecord_ofRecord _ := by simp

structure Event.Offers where
  offers : List Offer := []
  deriving DecidableEq,Repr

instance Event.Offers.instWireForm : WireForm Event.Offers where
  schema := .children 1 "offers" (schema Offer) .done
  toRecord m := (toChildren m.offers,())
  ofRecord | (offers,()) => ⟨ofChildren offers⟩
  ofRecord_toRecord _ := by simp
  toRecord_ofRecord _ := by simp

structure Event.InverseOffers where
  inverseOffers : List InverseOffer := []
  deriving DecidableEq,Repr

instance Event.InverseOffers.instWireForm : WireForm Event.InverseOffers where
  schema := .children 1 "inverse_offers" (schema InverseOffer) .done
  toRecord m := (toChildren m.inverseOffers,())
  ofRecord | (inverseOffers,()) => ⟨ofChildren inverseOffers⟩
  ofRecord_toRecord _ := by simp
  toRecord_ofRecord _ := by simp

structure Event.Rescind where
  offerId : Option OfferId := none
  deriving DecidableEq,Repr

instance Event.Rescind.instWireForm : WireForm Event.Rescind where
  schema := .child 1 "offer_id" (schema OfferId) .done
  toRecord m := (toChild m.offerId,())
  ofRecord | (offerId,()) => ⟨ofChild offerId⟩
  ofRecord_toRecord _ := by simp
  toRecord_ofRecord _ := by simp

structure Event.RescindInverseOffer where
  inverseOfferId : Option OfferId := none
  deriving DecidableEq,Repr

instance Event.RescindInverseOffer.instWireForm : WireForm Event.RescindInverseOffer where
  schema := .child 1 "inverse_offer_id" (schema OfferId) .done
  toRecord m := (toChild m.inverseOfferId,())
  ofRecord | (inverseOfferId,()) => ⟨ofChild inverseOfferId⟩
  ofRecord_toRecord _ := by simp
  toRecord_ofRecord _ := by simp

structure Event.Update where
  status : Option TaskStatus := none
  deriving DecidableEq,Repr

instance Event.Update.instWireForm : WireForm Event.Update where
  schema := .child 1 "status" (schema TaskStatus) .done
  toRecord m := (toChild m.status,())
  ofRecord | (status,()) => ⟨ofChild status⟩
  ofRecord_toRecord _ := by simp
  toRecord_ofRecord _ := by simp

structure Event.Message where
  agentId : Option AgentId := none
  executorId : Option ExecutorId := none
  data : Octets := []
  deriving DecidableEq,Repr

instance Event.Message.instWireForm : WireForm Event.Message where
  schema :=
    .child 1 "agent_id" (schema AgentId) <|
    .child 2 "executor_id" (schema ExecutorId) <|
    .field 3 "data" .plain .bytes .done
  toRecord m := (toChild m.agentId,toChild m.executorId,m.data,())
  ofRecord | (agentId,executorId,data,()) => ⟨ofChild agentId,ofChild executorId,data⟩
  ofRecord_toRecord _ := by simp
  toRecord_ofRecord _ := by simp

structure Event.Failure where
  agentId : Option AgentId := none
  executorId : Option ExecutorId := none
  status : Option Int32 := none
  deriving DecidableEq,Repr

instance Event.Failure.instWireForm : WireForm Event.Failure where
  schema :=
    .child 1 "agent_id" (schema AgentId) <|
    .child 2 "executor_id" (schema ExecutorId) <|
    .field 3 "status" .optional .int32 .done
  toRecord m := (toChild m.agentId,toChild m.executorId,m.status,())
  ofRecord | (agentId,executorId,status,()) => ⟨ofChild agentId,ofChild executorId,status⟩
  ofRecord_toRecord _ := by simp
  toRecord_ofRecord _ := by simp

structure Event.Error where
  message : String := ""
  deriving DecidableEq,Repr

instance Event.Error.instWireForm : WireForm Event.Error where
  schema := .field 1 "message" .plain .string .done
  toRecord m := (m.message,())
  ofRecord | (message,()) => ⟨message⟩
  ofRecord_toRecord _ := by simp
  toRecord_ofRecord _ := by simp

structure Event where
  kind : Int32 := 0
  subscribed : Option Event.Subscribed := none
  offers : Option Event.Offers := none
  rescind : Option Event.Rescind := none
  update : Option Event.Update := none
  message : Option Event.Message := none
  failure : Option Event.Failure := none
  error : Option Event.Error := none
  inverseOffers : Option Event.InverseOffers := none
  rescindInverseOffer : Option Event.RescindInverseOffer := none
  deriving DecidableEq,Repr

instance Event.instWireForm : WireForm Event where
  schema :=
    .field 1 "type" .plain (.enumeration 0) <|
    .child 2 "subscribed" (schema Event.Subscribed) <|
    .child 3 "offers" (schema Event.Offers) <|
    .child 4 "rescind" (schema Event.Rescind) <|
    .child 5 "update" (schema Event.Update) <|
    .child 6 "message" (schema Event.Message) <|
    .child 7 "failure" (schema Event.Failure) <|
    .child 8 "error" (schema Event.Error) <|
    .child 9 "inverse_offers" (schema Event.InverseOffers) <|
    .child 10 "rescind_inverse_offer" (schema Event.RescindInverseOffer) .done
  toRecord m := (m.kind,toChild m.subscribed,toChild m.offers,toChild m.rescind,
    toChild m.update,toChild m.message,toChild m.failure,toChild m.error,
    toChild m.inverseOffers,toChild m.rescindInverseOffer,())
  ofRecord
    | (kind,subscribed,offers,rescind,update,message,failure,error,inverseOffers,
       rescindInverseOffer,()) =>
      ⟨kind,ofChild subscribed,ofChild offers,ofChild rescind,ofChild update,ofChild message,
       ofChild failure,ofChild error,ofChild inverseOffers,ofChild rescindInverseOffer⟩
  ofRecord_toRecord _ := by simp
  toRecord_ofRecord _ := by simp

/-- What an event reports. -/
inductive Event.Kind where
  | unknown
  | subscribed
  | offers
  | rescind
  | update
  | message
  | failure
  | error
  | heartbeat
  | inverseOffers
  | rescindInverseOffer
  deriving DecidableEq,Repr

namespace Event.Kind

def code : Kind → Int32
  | unknown => 0
  | subscribed => 1
  | offers => 2
  | rescind => 3
  | update => 4
  | message => 5
  | failure => 6
  | error => 7
  | heartbeat => 8
  | inverseOffers => 9
  | rescindInverseOffer => 10

def name : Kind → String
  | unknown => "Unknown"
  | subscribed => "Subscribed"
  | offers => "Offers"
  | rescind => "Rescind"
  | update => "Update"
  | message => "Message"
  | failure => "Failure"
  | error => "Error"
  | heartbeat => "Heartbeat"
  | inverseOffers => "InverseOffers"
  | rescindInverseOffer => "RescindInverseOffer"

def all : List Kind :=
  [unknown,subscribed,offers,rescind,update,message,failure,error,heartbeat,inverseOffers,
    rescindInverseOffer]

/-- An unrecognised number is of no known kind. -/
def ofCode (n : Int32) : Kind := (all.find? fun k => k.code = n).getD unknown

@[simp] theorem ofCode_code (k : Kind) : ofCode k.code = k := by cases k <;> rfl

end Event.Kind

def Event.kindOf (e : Event) : Event.Kind := .ofCode e.kind

end ClusterFramework
