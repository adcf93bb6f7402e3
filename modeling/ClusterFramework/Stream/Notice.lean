import ClusterFramework.Duration
import ClusterFramework.Message.Event

/-! A notice is an event with its payload unpacked: one constructor for each kind, holding
what that kind carries. -/
namespace ClusterFramework

inductive Notice where
  | subscribed (framework : FrameworkId) (heartbeat : Option Duration) (master : Option MasterInfo)
  | offers (offers : List Offer)
  | inverseOffers (offers : List InverseOffer)
  | rescind (offer : OfferId)
  | rescindInverseOffer (offer : OfferId)
  | update (status : TaskStatus)
  | message (message : Event.Message)
  | failure (failure : Event.Failure)
  | error (text : String)
  | heartbeat
  | unknown (code : Int32)
  deriving DecidableEq,Repr

namespace Notice

def name : Notice → String
  | subscribed .. => "SUBSCRIBED"
  | offers _ => "OFFERS"
  | inverseOffers _ => "INVERSE_OFFERS"
  | rescind _ => "RESCIND"
  | rescindInverseOffer _ => "RESCIND_INVERSE_OFFER"
  | update _ => "UPDATE"
  | message _ => "MESSAGE"
  | failure _ => "FAILURE"
  | error _ => "ERROR"
  | heartbeat => "HEARTBEAT"
  | unknown _ => "UNKNOWN"

def interval? (seconds : Option Binary64) : Option (Option Duration) :=
  match seconds.filter fun x => x.isFinite && Binary64.lt .zero x with
  | none => some none
  | some x => (Duration.ofSeconds? x).map some

def ofSubscribed? (code : Int32) (s : Event.Subscribed) : Option Notice :=
  match s.frameworkId with
  | none => some (unknown code)
  | some framework =>
    (interval? s.heartbeatIntervalSeconds).map fun i => subscribed framework i s.masterInfo

/-- An event whose payload is missing, or lacks what its kind needs, is unknown. No notice
can be made of an interval longer than any duration. -/
def ofEvent? (e : Event) : Option Notice :=
  let orUnknown : Option Notice → Option Notice := fun n => some (n.getD (unknown e.kind))
  match e.kindOf with
  | .subscribed => match e.subscribed with
    | none => some (unknown e.kind)
    | some s => ofSubscribed? e.kind s
  | .offers => orUnknown (e.offers.map fun o => offers o.offers)
  | .inverseOffers => orUnknown (e.inverseOffers.map fun o => inverseOffers o.inverseOffers)
  | .rescind => orUnknown ((e.rescind.bind Event.Rescind.offerId).map rescind)
  | .rescindInverseOffer =>
    orUnknown ((e.rescindInverseOffer.bind Event.RescindInverseOffer.inverseOfferId).map
      rescindInverseOffer)
  | .update => orUnknown ((e.update.bind Event.Update.status).map update)
  | .message => orUnknown (e.message.map message)
  | .failure => orUnknown (e.failure.map failure)
  | .error => orUnknown (e.error.map fun x => error x.message)
  | .heartbeat => some heartbeat
  | .unknown => some (unknown e.kind)

end Notice
end ClusterFramework
