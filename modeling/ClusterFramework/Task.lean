import ClusterFramework.Message.Offer
import ClusterFramework.Retry.Policy

/-! Tasks a framework wants to run, and the states they go through. -/
namespace ClusterFramework

/-- A task waits for an offer, is launched with one, and is from then on in a state that the
master reports. -/
inductive TaskState where
  | queued
  | launched
  | staging
  | starting
  | running
  | killing
  | finished
  | failed
  | killed
  | error
  | lost
  | dropped
  | unreachable
  | gone
  | goneByOperator
  | unknown
  deriving DecidableEq,Repr

namespace TaskState

def all : List TaskState :=
  [queued,launched,staging,starting,running,killing,finished,failed,killed,error,lost,dropped,
    unreachable,gone,goneByOperator,unknown]

theorem mem_all (s : TaskState) : s ∈ all := by cases s <;> decide

/-- A task in such a state will not run again. -/
def isTerminal : TaskState → Bool
  | finished | failed | killed | error | lost | dropped | gone | goneByOperator => true
  | _ => false

def codes : List (Int32 × TaskState) :=
  [(0,starting),(1,running),(2,finished),(3,failed),(4,killed),(5,lost),(6,staging),(7,error),
    (8,killing),(9,dropped),(10,unreachable),(11,gone),(12,goneByOperator),(13,unknown)]

def ofCode (n : Int32) : TaskState := (codes.lookup n).getD unknown

def name : TaskState → String
  | queued => "QUEUED"
  | launched => "LAUNCHED"
  | staging => "TASK_STAGING"
  | starting => "TASK_STARTING"
  | running => "TASK_RUNNING"
  | killing => "TASK_KILLING"
  | finished => "TASK_FINISHED"
  | failed => "TASK_FAILED"
  | killed => "TASK_KILLED"
  | error => "TASK_ERROR"
  | lost => "TASK_LOST"
  | dropped => "TASK_DROPPED"
  | unreachable => "TASK_UNREACHABLE"
  | gone => "TASK_GONE"
  | goneByOperator => "TASK_GONE_BY_OPERATOR"
  | unknown => "TASK_UNKNOWN"

def ofName? (s : String) : Option TaskState := all.find? fun t => t.name = s

end TaskState

/-- `status` is the last report on the task, `agentId` where it was last launched. -/
structure Task where
  id : String
  name : String
  command : Option CommandInfo := none
  container : Option ContainerInfo := none
  labels : Option Labels := none
  healthCheck : Option HealthCheck := none
  resources : List Resource := []
  state : TaskState := .queued
  status : Option TaskStatus := none
  agentId : Option AgentId := none
  retry : Option RetryPolicy := none
  deriving DecidableEq,Repr

namespace Task

def demand (t : Task) (name : String) : Binary64 := scalarTotal name t.resources

def demands (t : Task) (name : String) : Bool := t.resources.any fun r => r.name = name

def toTaskInfo (t : Task) (agent : AgentId) : TaskInfo :=
  { name := t.name
    taskId := some ⟨t.id⟩
    agentId := some agent
    resources := t.resources
    command := t.command
    healthCheck := t.healthCheck
    container := t.container
    labels := t.labels }

end Task
end ClusterFramework
