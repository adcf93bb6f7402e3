import ClusterFramework.FrameworkError
import ClusterFramework.Master.Order
import ClusterFramework.Network.Header
import ClusterFramework.Settings.Framework
import ClusterFramework.Stream.Source
import ClusterFramework.Url.Reading

/-! Calls as they go over the network to a master, and what may come back. -/
namespace ClusterFramework
namespace Master

structure Post where
  url : Url
  headers : List (String × String)
  body : Octets
  deriving DecidableEq,Repr

/-- A body that is cut ends in a failure and not with its last octet. -/
structure Response where
  status : Nat
  headers : List (String × Octets) := []
  body : Octets := []
  isCut : Bool := false
  deriving DecidableEq,Repr

/-- A master that cannot be reached never sees the call; one that drops the connection does
not answer it. -/
inductive Answer where
  | unreachable
  | dropped
  | response (r : Response)
  deriving DecidableEq,Repr

def contentType : String := "application/x-protobuf"

def urlOf (s : MasterSettings) : Except MasterError Url :=
  match Url.ofString s.endpoint with
  | .error e => .error (.invalidEndpoint (s.endpoint ++ ": " ++ e.message))
  | .ok base =>
    match base.join s.path with
    | .error e => .error (.invalidEndpoint (s.path ++ ": " ++ e.message))
    | .ok url => .ok url

def subscribePost (url : Url) (c : Call) : Post :=
  ⟨url,[("content-type",contentType),("accept",contentType),("connection","keep-alive")],
    WireForm.encode c⟩

def orderPost (url : Url) (streamId : String) (c : Call) : Post :=
  ⟨url,[("content-type",contentType),("mesos-stream-id",streamId)],WireForm.encode c⟩

def Answer.arrives : Answer → Bool
  | unreachable => false
  | _ => true

/-- A response with a status of success. A body that is cut cannot be shown. -/
def Answer.accepted : Answer → Except MasterError Response
  | unreachable | dropped => .error (.transport "error sending request")
  | response r =>
    if isSuccess r.status then .ok r
    else .error (.refused r.status (if r.isCut then "" else Utf8.lossy r.body))

def Response.streamId? (r : Response) : Option String :=
  ((Network.field? "mesos-stream-id" r.headers).bind Network.visibleText?).filter (· ≠ "")

def Response.source (r : Response) : Stream.Source :=
  ⟨[r.body],if r.isCut then some "error decoding response body" else none⟩

end Master
end ClusterFramework
