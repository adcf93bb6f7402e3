import ClusterFramework.Controller.Report
import ClusterFramework.Proofs.Controller.Actions

/-! What a report on a task changes: the task it is about and nothing else. A failed task is
queued again or has failed for good, and the order that follows asks for offers. -/
namespace ClusterFramework

namespace Task

def reported (status : TaskStatus) (t : Task) : Task :=
  { t with agentId := status.agentId.or t.agentId, status := some status }

def requeued (t : Task) : Task := { t with state := .queued, agentId := none }

def withState (s : TaskState) (t : Task) : Task := { t with state := s }

@[simp] theorem id_reported (status : TaskStatus) (t : Task) : (t.reported status).id = t.id := rfl
@[simp] theorem id_withState (s : TaskState) (t : Task) : (t.withState s).id = t.id := rfl
@[simp] theorem state_requeued (t : Task) : t.requeued.state = .queued := rfl
@[simp] theorem state_withState (s : TaskState) (t : Task) : (t.withState s).state = s := rfl

end Task

/-- The registry once the policy of a task, if it has one, is in force. -/
def RetryRegistry.adopting (rs : RetryRegistry) (id : String) (policy : Option RetryPolicy) :
    RetryRegistry :=
  if rs.contains id then rs
  else
    match policy with
    | none => rs
    | some p => rs.insert id p

namespace Session

variable {r : Respondent} (s : Session) (id : String)

/-- All that a first failure changes is the registry. -/
theorem adoptPolicy_eq : s.adoptPolicy id =
    { s with retries := s.retries.adopting id ((s.tasks.get? id).bind Task.retry) } := by
  rw [adoptPolicy]
  unfold RetryRegistry.adopting
  split
  · rfl
  · cases (s.tasks.get? id).bind Task.retry <;> rfl

/-- A task that is not known cannot be queued again, and then no offers are asked for. -/
theorem tryAgain_eq (r : Respondent) : ∃ e : Log.Entry, s.tryAgain r id =
    if s.tasks.contains id then
      { s.note e with tasks := s.tasks.modify id Task.requeued }.order r .revive
        "Failed to revive offers"
    else
      (s.note e).note (.saying .warn "Failed to requeue task"
        [("task_id",.printed id),("error",.printed (TaskError.notFound id).message)]) := by
  refine ⟨.saying .info "Requeueing failed task" [("task_id",.printed id),
    ("attempt",Log.ofNat (((s.retries.get? id).map RetryPolicy.totalRetries).getD 0).toNat)],?_⟩
  rw [tryAgain]
  cases h : s.tasks.contains id with
  | true =>
    rw [tasks_note,TaskTable.requeue,TaskTable.change_of_contains h]
    rfl
  | false =>
    rw [tasks_note,TaskTable.requeue,TaskTable.change_of_not_contains h]
    rfl

theorem tasks_tryAgain : (s.tryAgain r id).tasks =
    (r.removedDuring s.issued
      (if s.tasks.contains id then [r.record s.issued (.order .revive)] else [])).foldl
        Dictionary.erase (s.tasks.modify id Task.requeued) := by
  obtain ⟨e,he⟩ := s.tryAgain_eq id r
  rw [he]
  cases h : s.tasks.contains id with
  | true =>
    rw [if_pos rfl,if_pos rfl,tasks_order,tasksAfter_eq]
    rfl
  | false =>
    rw [Dictionary.modify_of_not_contains h]
    rfl

theorem issued_tryAgain : (s.tryAgain r id).issued = s.issued ++
    if s.tasks.contains id then [r.record s.issued (.order .revive)] else [] := by
  obtain ⟨e,he⟩ := s.tryAgain_eq id r
  rw [he]
  cases h : s.tasks.contains id with
  | true => rw [if_pos rfl,if_pos rfl,issued_order]; rfl
  | false => exact (List.append_nil _).symm

@[simp] theorem tasks_giveUp :
    (s.giveUp id).tasks = s.tasks.modify id (Task.withState .failed) :=
  tasks_changeTasks ..

@[simp] theorem issued_giveUp : (s.giveUp id).issued = s.issued := issued_changeTasks ..

/-- Whether the policy of a task, which its first failure brings into force, allows one more
try. -/
def mayRetry : Bool :=
  ((s.retries.adopting id ((s.tasks.get? id).bind Task.retry)).recordFailure id).1

/-- The session with a failure of a task counted, if a retry is left for it. -/
def counted : Session :=
  { s with
    retries := ((s.retries.adopting id ((s.tasks.get? id).bind Task.retry)).recordFailure id).2 }

@[simp] theorem tasks_counted : (s.counted id).tasks = s.tasks := rfl
@[simp] theorem issued_counted : (s.counted id).issued = s.issued := rfl

theorem handleFailure_eq (r : Respondent) : s.handleFailure r id =
    if s.mayRetry id then (s.counted id).tryAgain r id else (s.counted id).giveUp id := by
  rw [handleFailure,adoptPolicy_eq]
  rfl

theorem tasks_handleFailure : (s.handleFailure r id).tasks =
    (r.removedDuring s.issued
      (if s.mayRetry id ∧ s.tasks.contains id then [r.record s.issued (.order .revive)]
        else [])).foldl Dictionary.erase
      (s.tasks.modify id (if s.mayRetry id then Task.requeued else Task.withState .failed)) := by
  rw [handleFailure_eq]
  cases s.mayRetry id with
  | true =>
    simp only [if_true,true_and]
    exact tasks_tryAgain (s.counted id) id
  | false => simp [Respondent.removedDuring]

theorem issued_handleFailure : (s.handleFailure r id).issued = s.issued ++
    if s.mayRetry id ∧ s.tasks.contains id then [r.record s.issued (.order .revive)] else [] := by
  rw [handleFailure_eq]
  cases s.mayRetry id with
  | true =>
    simp only [if_true,true_and]
    exact (s.counted id).issued_tryAgain id
  | false => simp

section

variable (id : TaskId) (status : TaskStatus)

/-- What a report makes of a task besides recording it. -/
def verdict : Task → Task :=
  if TaskState.ofCode status.state = .failed then
    if s.mayRetry id.value then Task.requeued else Task.withState .failed
  else fun t => t

@[simp] theorem id_verdict (t : Task) : (s.verdict id status t).id = t.id := by
  rw [verdict]
  split
  · split <;> rfl
  · rfl

def recorded : Session :=
  s.changeTasks id.value (TaskTable.setStatus · id.value status) "Failed to record status"

@[simp] theorem tasks_recorded :
    (s.recorded id status).tasks = s.tasks.modify id.value (Task.reported status) :=
  tasks_changeTasks ..

@[simp] theorem retries_recorded : (s.recorded id status).retries = s.retries := by
  rw [recorded,changeTasks]
  split <;> rfl

@[simp] theorem issued_recorded : (s.recorded id status).issued = s.issued :=
  issued_changeTasks ..

/-- A report does not touch the policy of its task. -/
theorem policy_recorded : ((s.recorded id status).tasks.get? id.value).bind Task.retry =
    (s.tasks.get? id.value).bind Task.retry := by
  rw [tasks_recorded,Dictionary.get?_modify,if_pos rfl]
  cases s.tasks.get? id.value <;> rfl

theorem mayRetry_recorded : (s.recorded id status).mayRetry id.value = s.mayRetry id.value := by
  rw [mayRetry,mayRetry,policy_recorded,retries_recorded]

/-- What is asked for after a report because its task waits again. -/
def revival (r : Respondent) : List Issued :=
  if s.tasks.contains id.value ∧ TaskState.ofCode status.state = .failed ∧ s.mayRetry id.value
  then [r.record s.issued (.order .revive)] else []

def receipt (r : Respondent) (issued : List Issued) (id : TaskId) (status : TaskStatus) :
    List Issued :=
  match status.uuid,status.agentId with
  | some uuid,some agent => [r.record issued (.order (.acknowledge agent id uuid))]
  | _,_ => []

theorem tasks_recordReport : (s.recordReport r id status).tasks =
    (r.removedDuring s.issued (s.revival id status r)).foldl Dictionary.erase
      (s.tasks.modify id.value (s.verdict id status ∘ Task.reported status)) := by
  rw [recordReport,revival]
  cases hc : s.tasks.contains id.value with
  | false =>
    rw [Dictionary.modify_of_not_contains hc]
    simp [Respondent.removedDuring]
  | true =>
    show (if TaskState.ofCode status.state = .failed then
      (s.recorded id status).handleFailure r id.value else s.recorded id status).tasks = _
    rw [verdict]
    split
    · rename_i hfailed
      simp [tasks_handleFailure,mayRetry_recorded,hc,hfailed,Dictionary.modify_modify]
    · rename_i hfailed
      simp [hfailed,Respondent.removedDuring,Function.comp_def]

theorem issued_recordReport :
    (s.recordReport r id status).issued = s.issued ++ s.revival id status r := by
  rw [recordReport,revival]
  cases hc : s.tasks.contains id.value with
  | false => simp
  | true =>
    show (if TaskState.ofCode status.state = .failed then
      (s.recorded id status).handleFailure r id.value else s.recorded id status).issued = _
    split
    · rename_i hfailed
      simp [issued_handleFailure,mayRetry_recorded,hc,hfailed]
    · rename_i hfailed
      simp [hfailed]

theorem tasks_acknowledge : (s.acknowledge r id status).tasks =
    (r.removedDuring s.issued (receipt r s.issued id status)).foldl Dictionary.erase
      s.tasks := by
  unfold acknowledge receipt
  cases status.uuid with
  | none => rfl
  | some uuid =>
    cases status.agentId with
    | none => rfl
    | some agent => rw [tasks_order,tasksAfter_eq]

theorem issued_acknowledge : (s.acknowledge r id status).issued =
    s.issued ++ receipt r s.issued id status := by
  unfold acknowledge receipt
  cases status.uuid with
  | none => simp
  | some uuid =>
    cases status.agentId with
    | none => simp
    | some agent => simp

/-- A report that names no task changes none, and is not acknowledged. -/
theorem handleUpdate_of_no_id {status : TaskStatus} (h : status.taskId = none) :
    s.handleUpdate r status = s.note (.saying .warn "Status update without task id") := by
  rw [handleUpdate,h]

variable {id status}

theorem handleUpdate_of_id (h : status.taskId = some id) : ∃ e : Log.Entry,
    s.handleUpdate r status = ((s.note e).recordReport r id status).acknowledge r id status := by
  rw [handleUpdate,h]
  exact ⟨_,rfl⟩

theorem issued_handleUpdate (h : status.taskId = some id) :
    (s.handleUpdate r status).issued = s.issued ++ s.revival id status r ++
      receipt r (s.issued ++ s.revival id status r) id status := by
  obtain ⟨e,he⟩ := s.handleUpdate_of_id (r := r) h
  have hissued : ((s.note e).recordReport r id status).issued =
      s.issued ++ s.revival id status r := issued_recordReport ..
  rw [he,issued_acknowledge,hissued]

/-- A report changes its task. Whatever others remove while it is handled is gone besides. -/
theorem tasks_handleUpdate (h : status.taskId = some id) :
    (s.handleUpdate r status).tasks = (r.removedDuring s.issued (s.revival id status r ++
        receipt r (s.issued ++ s.revival id status r) id status)).foldl Dictionary.erase
      (s.tasks.modify id.value (s.verdict id status ∘ Task.reported status)) := by
  obtain ⟨e,he⟩ := s.handleUpdate_of_id (r := r) h
  have hissued : ((s.note e).recordReport r id status).issued =
      s.issued ++ s.revival id status r := issued_recordReport ..
  rw [he,tasks_acknowledge,hissued,tasks_recordReport,Respondent.removedDuring_append,
    List.foldl_append]
  rfl

theorem tasks_handleUpdate_of_quiet (hr : r.Quiet) (h : status.taskId = some id) :
    (s.handleUpdate r status).tasks =
      s.tasks.modify id.value (s.verdict id status ∘ Task.reported status) := by
  rw [s.tasks_handleUpdate h,Respondent.removedDuring_of_quiet hr]
  rfl

end

end Session
end ClusterFramework
