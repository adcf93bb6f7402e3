import ClusterFramework.Proofs.Controller.Retrying

/-! Everything that a report does. It is acknowledged once if it has a mark and names an agent,
whatever becomes of its task and whether or not other orders fail; and besides the task it
names and what is counted for that task nothing changes. -/
namespace ClusterFramework

namespace RetryRegistry

variable (rs : RetryRegistry) (id : String) (own : Option RetryPolicy)

/-- The policy that allows one more retry of a task, if there is one: the policy in force for
it, or else its own. -/
def allowing? : Option RetryPolicy :=
  ((rs.get? id).or own).filter fun p => p.totalRetries < p.maxRetries

theorem get?_adopting (other : String) : (rs.adopting id own).get? other =
    if other = id then (rs.get? id).or own else rs.get? other := by
  by_cases hother : other = id
  · subst hother
    rw [if_pos rfl]
    unfold adopting
    rw [Dictionary.contains]
    cases h : rs.get? other with
    | some p => exact h
    | none =>
      cases own with
      | none => exact h
      | some p => simp
  · rw [if_neg hother]
    exact get?_adopting_of_ne hother own

theorem recordFailure_adopting :
    ((rs.adopting id own).recordFailure id).1 = (rs.allowing? id own).isSome := by
  have hget := rs.get?_adopting id own id
  rw [if_pos rfl] at hget
  rw [allowing?,← hget]
  cases h : (rs.adopting id own).get? id with
  | none =>
    rw [recordFailure_none h]
    rfl
  | some p =>
    rw [recordFailure_of_get? h,RetryPolicy.countFailure,Option.filter_some]
    by_cases hleft : p.totalRetries < p.maxRetries
    · simp [hleft]
    · simp [hleft]

theorem recordFailure_of_allowing {p : RetryPolicy} (h : rs.allowing? id own = some p) :
    ((rs.adopting id own).recordFailure id).2 =
      rs.insert id { p with totalRetries := p.totalRetries + 1 } := by
  obtain ⟨hp,hleft⟩ := Option.filter_eq_some_iff.mp h
  have hget := rs.get?_adopting id own id
  rw [if_pos rfl,hp] at hget
  apply Dictionary.ext_get?
  intro other
  rw [get?_recordFailure,hget,Dictionary.get?_insert]
  by_cases hother : other = id
  · simp [hother,RetryPolicy.countFailure,of_decide_eq_true hleft]
  · rw [if_neg hother,if_neg hother,get?_adopting_of_ne hother]

theorem erase_recordFailure :
    ((rs.adopting id own).recordFailure id).2.erase id = rs.erase id := by
  apply Dictionary.ext_get?
  intro other
  by_cases hother : other = id
  · simp [hother]
  · simp [hother,get?_recordFailure,get?_adopting_of_ne hother]

end RetryRegistry

namespace Session

def allowing? (s : Session) (id : String) : Option RetryPolicy :=
  s.retries.allowing? id ((s.tasks.get? id).bind Task.retry)

variable (s : Session)

theorem mayRetry_eq (id : String) : s.mayRetry id = (s.allowing? id).isSome :=
  s.retries.recordFailure_adopting id _

/-- A retry is counted while one is left; otherwise nothing is counted any longer. -/
theorem retriesAfterFailure_eq (id : String) : s.retriesAfterFailure id =
    match s.allowing? id with
    | some p => s.retries.insert id { p with totalRetries := p.totalRetries + 1 }
    | none => s.retries.erase id := by
  rw [retriesAfterFailure,mayRetry_eq]
  cases h : s.allowing? id with
  | some p => exact s.retries.recordFailure_of_allowing id _ h
  | none => exact s.retries.erase_recordFailure id _

theorem verdict_reported (id : TaskId) (status : TaskStatus) (t : Task) :
    s.verdict id status (t.reported status) =
      { t with
        status := some status
        agentId :=
          if TaskState.ofCode status.state = .failed ∧ (s.allowing? id.value).isSome then none
          else status.agentId.or t.agentId
        state :=
          if TaskState.ofCode status.state = .failed then
            if (s.allowing? id.value).isSome then .queued else .failed
          else t.state } := by
  rw [verdict,mayRetry_eq]
  by_cases hfailed : TaskState.ofCode status.state = .failed
  · cases (s.allowing? id.value).isSome <;>
      simp [hfailed,Task.reported,Task.requeued,Task.withState]
  · simp [hfailed,Task.reported]

/-- A report is acknowledged once if it names its task, has a mark and names an agent, and not
at all otherwise. It changes at most the task it names, which it is recorded in, and what is
counted for that task: after a failure for which a retry is left, the task waits again and
offers are asked for; after any other failure it has failed. All this holds whether the orders
fail or not. Tasks that others remove meanwhile are gone. -/
theorem handle_update_of_running {r : Respondent} {s : Session} (hphase : s.phase = .running)
    (status : TaskStatus) :
    let s' := (s.handle r (.update status)).2
    s'.offers = s.offers ∧ s'.phase = s.phase ∧ s'.store = s.store ∧
      s'.frameworkId = s.frameworkId ∧
      (status.taskId = none →
        s'.issued = s.issued ∧ s'.tasks = s.tasks ∧ s'.retries = s.retries) ∧
      ∀ id, status.taskId = some id →
        let failed := TaskState.ofCode status.state = .failed
        let allowing := s.allowing? id.value
        let revived :=
          if s.tasks.contains id.value ∧ failed ∧ allowing.isSome then
            [r.record s.issued (.order .revive)]
          else []
        let acknowledged :=
          match status.uuid,status.agentId with
          | some uuid,some agent =>
            [r.record (s.issued ++ revived) (.order (.acknowledge agent id uuid))]
          | _,_ => []
        s'.issued = s.issued ++ revived ++ acknowledged ∧
          s'.tasks = (r.removedDuring s.issued (revived ++ acknowledged)).foldl Dictionary.erase
            (s.tasks.modify id.value fun t =>
              { t with
                status := some status
                agentId := if failed ∧ allowing.isSome then none else status.agentId.or t.agentId
                state :=
                  if failed then if allowing.isSome then .queued else .failed
                  else t.state }) ∧
          s'.retries =
            if s.tasks.contains id.value ∧ failed then
              match allowing with
              | some p => s.retries.insert id.value { p with totalRetries := p.totalRetries + 1 }
              | none => s.retries.erase id.value
            else s.retries := by
  intro s'
  have hs' : s' = s.handleUpdate r status := congrArg Prod.snd (handle_of_running hphase _)
  have hkept := kept_handleUpdate r s status
  rw [hs']
  refine ⟨hkept.offers,hkept.phase,hkept.store,hkept.frameworkId,fun hid => ?_,fun id hid => ?_⟩
  · rw [handleUpdate_of_no_id s hid]
    exact ⟨rfl,rfl,rfl⟩
  · intro failed allowing revived acknowledged
    have hissued := s.issued_handleUpdate (r := r) hid
    have htasks := s.tasks_handleUpdate (r := r) hid
    have hchange : (s.verdict id status ∘ Task.reported status) = _ :=
      funext (s.verdict_reported id status)
    rw [revival,mayRetry_eq] at hissued htasks
    rw [hchange] at htasks
    refine ⟨hissued,htasks,?_⟩
    rw [hkept.retries,retriesAfterReport,hid]
    dsimp only
    rw [retriesAfterFailure_eq]

def noMaster : Respondent := fun _ _ => { failure := some (.master .noStreamId) }

def onceRunning : Session :=
  { phase := .running
    tasks := Dictionary.insert .empty "a"
      { retriedTask with state := .running, agentId := some ⟨"x"⟩ } }

theorem handle_update_without_master :
    let status : TaskStatus :=
      { taskId := some ⟨"a"⟩, state := 3, agentId := some ⟨"x"⟩, uuid := some [1] }
    let s' := (onceRunning.handle noMaster (.update status)).2
    onceRunning.phase = .running ∧
      s'.issued = [⟨.order .revive,true⟩,⟨.order (.acknowledge ⟨"x"⟩ ⟨"a"⟩ [1]),true⟩] ∧
      s'.tasks.get? "a" = some { retriedTask with status := some status } ∧
      s'.retries.get? "a" = some
        { name := "once", maxRetries := 1, totalRetries := 1, retryTime := .ofMillis 0 } := by
  intro status s'
  obtain ⟨_,_,_,_,_,hreport⟩ :=
    handle_update_of_running (r := noMaster) (s := onceRunning) rfl status
  obtain ⟨hissued,htasks,hretries⟩ := hreport ⟨"a"⟩ rfl
  refine ⟨rfl,hissued.trans (by decide +kernel),?_,?_⟩
  · rw [htasks]
    decide +kernel
  · rw [hretries]
    decide +kernel

end Session
end ClusterFramework
