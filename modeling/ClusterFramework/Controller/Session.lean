import ClusterFramework.FrameworkError
import ClusterFramework.Log.Entry
import ClusterFramework.Master.Order
import ClusterFramework.OfferPool
import ClusterFramework.Retry.Registry
import ClusterFramework.Store.KeyValue

/-! The state of a framework between two events: its tasks, its offers, its retries, and
what it has asked of the master so far. -/
namespace ClusterFramework

inductive Phase where
  | init
  | awaitingId
  | running
  deriving DecidableEq,Repr

def Phase.name : Phase → String
  | init => "Init"
  | awaitingId => "AwaitingId"
  | running => "Running"

inductive Action where
  | subscribe
  | setFrameworkId (id : FrameworkId)
  | order (o : Order)
  deriving DecidableEq,Repr

structure Issued where
  action : Action
  failed : Bool
  deriving DecidableEq,Repr

/-- How an action ends, and what happens while it is under way: others may remove tasks,
or ask the framework to stop. -/
structure Reply where
  failure : Option FrameworkError := none
  removed : List String := []
  cancels : Bool := false
  deriving DecidableEq,Repr

/-- Whoever answers the actions; the answer may depend on all the actions before. -/
abbrev Respondent := List Issued → Action → Reply

/-- `issued` and `log` hold everything so far, the latest last. -/
structure Session where
  phase : Phase := .init
  tasks : TaskTable
  offers : OfferPool := []
  retries : RetryRegistry := .empty
  store : Option KeyValueStore := none
  frameworkId : Option FrameworkId := none
  cancelled : Bool := false
  now : Instant := 0
  issued : List Issued := []
  log : List Log.Entry := []
  deriving DecidableEq,Repr

namespace Session

open Log (Entry)

def note (s : Session) (e : Entry) : Session := { s with log := s.log ++ [e] }

def noteAll (s : Session) (es : List Entry) : Session := { s with log := s.log ++ es }

def issue (r : Respondent) (a : Action) (s : Session) : Option FrameworkError × Session :=
  let reply := r s.issued a
  (reply.failure,
    { s with
      tasks := reply.removed.foldl Dictionary.erase s.tasks
      cancelled := s.cancelled || reply.cancels
      issued := s.issued ++ [⟨a,reply.failure.isSome⟩] })

def perform (r : Respondent) (a : Action) (s : Session) : Session :=
  let reply := r s.issued a
  { s with
    tasks := reply.removed.foldl Dictionary.erase s.tasks
    cancelled := s.cancelled || reply.cancels
    issued := s.issued ++ [⟨a,false⟩] }

def order (r : Respondent) (o : Order) (complaint : String) (s : Session) : Session :=
  match s.issue r (.order o) with
  | (none,s) => s
  | (some e,s) => s.note (.saying .warn complaint [("error",.printed e.message)])

def changeTasks (id : String) (change : TaskTable → Except TaskError TaskTable)
    (complaint : String) (s : Session) : Session :=
  match change s.tasks with
  | .ok tasks => { s with tasks := tasks }
  | .error e =>
    s.note (.saying .warn complaint [("task_id",.printed id),("error",.printed e.message)])

end Session
end ClusterFramework
