import ClusterFramework.Controller.Session

/-! What becomes of a report on a task. Every report that asks for it is acknowledged, and a
failed task is tried again as often as its policy allows. -/
namespace ClusterFramework
namespace Session

open Log (Entry)

/-- The policy of a task comes into force with its first failure. -/
def adoptPolicy (id : String) (s : Session) : Session :=
  if s.retries.contains id then s
  else
    match (s.tasks.get? id).bind Task.retry with
    | none => s
    | some p => { s with retries := s.retries.insert id p }

def tryAgain (r : Respondent) (id : String) (s : Session) : Session :=
  let attempt := ((s.retries.get? id).map RetryPolicy.totalRetries).getD 0
  let s := s.note (.saying .info "Requeueing failed task"
    [("task_id",.printed id),("attempt",Log.ofNat attempt.toNat)])
  match s.tasks.requeue id with
  | .ok tasks => { s with tasks := tasks }.order r .revive "Failed to revive offers"
  | .error e =>
    s.note (.saying .warn "Failed to requeue task"
      [("task_id",.printed id),("error",.printed e.message)])

/-- With no retry left the task has failed for good, and its policy is forgotten. -/
def giveUp (id : String) (s : Session) : Session :=
  { s with retries := s.retries.erase id }.changeTasks id (TaskTable.setState · id .failed)
    "Failed to mark task failed"

def handleFailure (r : Respondent) (id : String) (s : Session) : Session :=
  let s := s.adoptPolicy id
  let (more,retries) := s.retries.recordFailure id
  let s := { s with retries := retries }
  if more then s.tryAgain r id else s.giveUp id

def recordReport (r : Respondent) (id : TaskId) (status : TaskStatus) (s : Session) : Session :=
  if s.tasks.contains id.value then
    let s := s.changeTasks id.value (TaskTable.setStatus · id.value status)
      "Failed to record status"
    if TaskState.ofCode status.state = .failed then s.handleFailure r id.value else s
  else s.note (.saying .error "Status update for unknown task" [("task_id",.printed id.value)])

def acknowledge (r : Respondent) (id : TaskId) (status : TaskStatus) (s : Session) : Session :=
  match status.uuid, status.agentId with
  | none, _ => s
  | some _, none =>
    s.note (.saying .warn "Cannot acknowledge update without agent id"
      [("task_id",.printed id.value)])
  | some uuid, some agent =>
    s.order r (.acknowledge agent id uuid) "Failed to acknowledge status update"

def handleUpdate (r : Respondent) (status : TaskStatus) (s : Session) : Session :=
  match status.taskId with
  | none => s.note (.saying .warn "Status update without task id")
  | some id =>
    let s := s.note (.saying .info "Task status update"
      [("task_id",.printed id.value),
        ("state",.printed (TaskState.ofCode status.state).name),
        ("message",.text (status.message.getD ""))])
    (s.recordReport r id status).acknowledge r id status

end Session
end ClusterFramework
