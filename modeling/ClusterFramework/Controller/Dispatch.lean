import ClusterFramework.Controller.Matching
import ClusterFramework.Controller.Report
import ClusterFramework.Stream.Notice

/-! The course of a subscription: each notice is handled in order of arrival, and a
subscription that ends or fails is followed by the next one. -/
namespace ClusterFramework

inductive Flow where
  | proceed
  | reconnect
  deriving DecidableEq,Repr

def Flow.name : Flow → String
  | proceed => "Continue"
  | reconnect => "Reconnect"

namespace Session

open Log (Entry)

def frameworkIdKey : String := "/tether/framework_id"

def storeId (id : FrameworkId) (s : Session) : Session :=
  match s.store with
  | none => s
  | some store =>
    let (answer,store) := store.put s.now frameworkIdKey (Utf8.encode id.value)
    let s := { s with store := some store }
    match answer with
    | .ok () => s
    | .error e => s.note (.saying .warn "Failed to store framework id"
        [("error",.printed e.message)])

def handleSubscribed (r : Respondent) (id : FrameworkId) (heartbeat : Option Duration)
    (master : Option MasterInfo) (s : Session) : Session :=
  let s := s.note (.saying .info "Subscribed"
    ([("framework_id",.printed id.value)] ++
      (heartbeat.map fun d =>
        ("heartbeat_interval_secs",Log.ofBinary64 d.toSeconds)).toList ++
      ((master.bind MasterInfo.hostname).map fun h => ("master",Log.Value.text h)).toList))
  let s := (s.storeId id).perform r (.setFrameworkId id)
  { s with frameworkId := some id, phase := .running }

def handleRescind (id : OfferId) (s : Session) : Session :=
  let (found,left) := s.offers.rescind id
  let s := { s with offers := left }
  s.note (if found then .saying .info "Offer rescinded" [("offer_id",.printed id.value)]
    else .saying .debug "Rescinded offer was not held" [("offer_id",.printed id.value)])

def inverseOfferEntry (o : InverseOffer) : Entry :=
  .saying .info "Inverse offer received"
    [("offer_id",quotedId o.id),("agent_id",Log.ofQuotedOption (o.agentId.map AgentId.value))]

def messageEntry (m : Event.Message) : Entry :=
  .saying .info "Executor message"
    [("agent_id",Log.ofQuotedOption (m.agentId.map AgentId.value)),
      ("executor_id",Log.ofQuotedOption (m.executorId.map ExecutorId.value)),
      ("size",Log.ofNat m.data.length)]

def failureEntry (f : Event.Failure) : Entry :=
  .saying .error "Agent or executor failure"
    [("agent_id",Log.ofQuotedOption (f.agentId.map AgentId.value)),
      ("executor_id",Log.ofQuotedOption (f.executorId.map ExecutorId.value)),
      ("status",.printed (match f.status with
        | none => "None"
        | some n => "Some(" ++ toString n.toInt ++ ")"))]

/-- Handles a notice of a subscription that is confirmed, or the one that confirms it. -/
def dispatch (r : Respondent) (n : Notice) (s : Session) : Flow × Session :=
  match n with
  | .subscribed id heartbeat master => (.proceed,s.handleSubscribed r id heartbeat master)
  | .offers batch => (.proceed,s.handleOffers r batch)
  | .inverseOffers os => (.proceed,s.noteAll (os.map inverseOfferEntry))
  | .rescind id => (.proceed,s.handleRescind id)
  | .rescindInverseOffer id =>
    (.proceed,s.note (.saying .info "Inverse offer rescinded" [("offer_id",.printed id.value)]))
  | .update status => (.proceed,s.handleUpdate r status)
  | .message m => (.proceed,s.note (messageEntry m))
  | .failure f => (.proceed,s.note (failureEntry f))
  | .error text =>
    let s := s.note (.saying .error "Master reported an error, resubscribing"
      [("message",.printed text)])
    (.reconnect,{ s with phase := .init })
  | .heartbeat => (.proceed,s.note (.saying .debug "Heartbeat"))
  | .unknown code =>
    (.proceed,s.note (.saying .warn "Unknown event" [("kind",.printed (toString code.toInt))]))

/-- Such notices count even before a subscription is confirmed. -/
def isEarly : Notice → Bool
  | .subscribed .. | .heartbeat => true
  | _ => false

def handle (r : Respondent) (n : Notice) (s : Session) : Flow × Session :=
  if s.phase = .running || isEarly n then s.dispatch r n
  else
    (.proceed,s.note (.saying .warn "Ignoring event received before SUBSCRIBED"
      [("event",.text n.name)]))

/-- Handles the notices of a subscription until they end, one of them ends it, or the
framework is asked to stop. -/
def consume (r : Respondent) : List Notice → Session → Session
  | [], s =>
    if s.cancelled then s else s.note (.saying .warn "Subscription ended, reconnecting")
  | n :: ns, s =>
    if s.cancelled then s
    else
      match s.handle r n with
      | (.reconnect,s) => s
      | (.proceed,s) => consume r ns s

/-- Subscribes once for each list of notices. After the last one the framework is asked to
stop while it waits for a subscription. -/
def follow (r : Respondent) : List (List Notice) → Session → Session
  | [], s =>
    if s.cancelled then s
    else { { s with phase := .init }.perform r .subscribe with cancelled := true }
  | ns :: rest, s =>
    if s.cancelled then s
    else
      let s := { s with phase := .init }.perform r .subscribe
      follow r rest ({ s with phase := .awaitingId }.consume r ns)

def run (r : Respondent) (subscriptions : List (List Notice)) (s : Session) : Session :=
  let s := (s.note (.saying .info "Event controller started")).follow r subscriptions
  { s with phase := .init }.note (.saying .info "Event controller stopped")

end Session
end ClusterFramework
