import ClusterFramework.Log.Entry
import ClusterFramework.Master.Connection
import ClusterFramework.Stream.Events
import ClusterFramework.Stream.Notice

/-! A framework's side of the connection to its master. It holds the stream id of the last
subscription, which every order carries, and the framework id, which every call carries. -/
namespace ClusterFramework

open Master

/-- `posts` and `log` hold everything so far, the latest last. -/
structure Scheduler where
  url : Url
  info : FrameworkInfo
  streamId : Option String := none
  backoff : Duration
  backoffMax : Option Duration := none
  posts : List Post := []
  log : List Log.Entry := []
  deriving DecidableEq,Repr

namespace Scheduler

open Log (Entry)

def ofSettings (s : FrameworkSettings) : Except FrameworkError Scheduler :=
  match urlOf s.masterSettings with
  | .error e => .error (.master e)
  | .ok url =>
    .ok { url := url, info := s.toFrameworkInfo, backoff := s.backoff, backoffMax := s.backoffMax }

def frameworkId (s : Scheduler) : Option FrameworkId := s.info.id

def note (s : Scheduler) (e : Entry) : Scheduler := { s with log := s.log ++ [e] }

def setFrameworkId (s : Scheduler) (id : FrameworkId) : Scheduler :=
  { s with info := { s.info with id := some id } }.note
    (.saying .info "Framework id assigned" [("framework_id",.printed id.value)])

def setStreamId (s : Scheduler) (id : String) : Scheduler := { s with streamId := some id }

def clearStreamId (s : Scheduler) : Scheduler := { s with streamId := none }

def post (s : Scheduler) (p : Post) (a : Answer) : Scheduler :=
  if a.arrives then { s with posts := s.posts ++ [p] } else s

def refusalEntries : MasterError → List Entry
  | .refused status body =>
    [.saying .warn "Master rejected call"
      [("status",.printed (statusText status)),("body",.printed body)]]
  | _ => []

def announce (s : Scheduler) : Order → Scheduler
  | .revive => s.note (.saying .debug "Reviving offers")
  | .suppress => s.note (.saying .debug "Suppressing offers")
  | _ => s

def transmit (s : Scheduler) (c : Call) (a : Answer) : Except MasterError Response × Scheduler :=
  match s.streamId with
  | none => (.error .noStreamId,s)
  | some id =>
    if Network.isHeaderText id then (a.accepted,s.post (orderPost s.url id c) a)
    else (.error (.transport "builder error"),s)

def send (s : Scheduler) (o : Order) (a : Answer) : Except FrameworkError Unit × Scheduler :=
  match s.transmit (o.toCall s.frameworkId) a with
  | (.ok r,s) =>
    (.ok (),s.note (.saying .debug "Call accepted" [("status",.printed (statusText r.status))]))
  | (.error e,s) =>
    let s := (refusalEntries e).foldl note s
    (.error (.master e),s.note (.saying .error "Call to master failed"
      [("call_type",.printed o.kind.name),("error",.printed e.message)]))

/-- After a teardown there is no subscription, whatever the master said to it. -/
def order (s : Scheduler) (o : Order) (a : Answer) : Except FrameworkError Unit × Scheduler :=
  let (result,s) := (s.announce o).send o a
  if o = .teardown then (result,s.clearStreamId.note (.saying .info "Framework torn down"))
  else (result,s)

def nextBackoff (s : Scheduler) (current : Duration) : Duration :=
  match s.backoffMax with
  | none => current
  | some longest => (current.times 2).shorter longest

def opened (a : Answer) : Except MasterError (String × Response) := do
  let r ← a.accepted
  match r.streamId? with
  | none => throw .missingStreamId
  | some id => pure (id,r)

def attempt (s : Scheduler) (a : Answer) : Except MasterError Response × Scheduler :=
  let s := s.post (subscribePost s.url s.info.toSubscribe) a
  match opened a with
  | .ok (id,r) =>
    (.ok r,(s.setStreamId id).note
      (.saying .info "Subscribed to master" [("stream_id",.printed id)]))
  | .error e => (.error e,(refusalEntries e).foldl note s)

/-- What came of subscribing: the response that opened a subscription, if there was one
among the answers, and the waits before the attempts after the first. -/
structure Subscribing where
  response : Option Response
  waits : List Duration
  scheduler : Scheduler

/-- Tries until the master accepts, and waits longer and longer in between. -/
def subscribeFrom (s : Scheduler) (wait : Duration) : List Answer → Subscribing
  | [] => ⟨none,[],s⟩
  | a :: answers =>
    match s.attempt a with
    | (.ok r,s) => ⟨some r,[],s⟩
    | (.error e,s) =>
      let s := s.note (.saying .error "Subscribe failed, retrying"
        [("error",.printed e.message),("retry_in_ms",Log.ofNat wait.millis)])
      let rest := s.subscribeFrom (s.nextBackoff wait) answers
      { rest with waits := wait :: rest.waits }

def subscribe (s : Scheduler) (answers : List Answer) : Subscribing :=
  s.subscribeFrom s.backoff answers

/-- The notices up to the first item that is none. -/
def leading : List (Except Stream.RecordError Event) → List Notice
  | [] => []
  | .error _ :: _ => []
  | .ok e :: items =>
    match Notice.ofEvent? e with
    | none => []
    | some n => n :: leading items

/-- What is said when the items end, after `n` events: nothing if an event stops the
delivery. -/
def endingFrom (n : Nat) : List (Except Stream.RecordError Event) → Option Entry
  | [] => some (.saying .warn "Subscription stream closed by master" [("records",Log.ofNat n)])
  | .error e :: _ =>
    some (.saying .error "Subscription stream failed"
      [("records",Log.ofNat n),("error",.printed e.message)])
  | .ok e :: items => (Notice.ofEvent? e).bind fun _ => endingFrom (n+1) items

def Subscribing.items (x : Subscribing) : List (Except Stream.RecordError Event) :=
  match x.response with
  | none => []
  | some r => (Stream.Decoder.all ⟨r.source,0⟩).1

def Subscribing.notices (x : Subscribing) : List Notice := leading x.items

def Subscribing.ending (x : Subscribing) : Option Entry :=
  x.response.bind fun _ => endingFrom 0 x.items

end Scheduler
end ClusterFramework
