import ClusterFramework.Proofs.Controller.Steps

/-! When a task is launched. As long as nobody else changes the tasks, a task that waits is
launched by the orders that accept an offer for it, and it waits again only after a failure. -/
namespace ClusterFramework

def Operation.launchedIds (o : Operation) : List String :=
  if o.kind = launchKind then
    (o.launch.toList.flatMap Launch.taskInfos).filterMap fun t => t.taskId.map TaskId.value
  else []

namespace Issued

def isAccept (i : Issued) : Bool :=
  match i.action with
  | .order (.accept ..) => true
  | _ => false

def launchedIds (i : Issued) : List String :=
  match i.action with
  | .order (.accept _ operations _) => operations.flatMap Operation.launchedIds
  | _ => []

theorem launchedIds_of_not_isAccept {i : Issued} (h : i.isAccept = false) :
    i.launchedIds = [] := by
  rw [isAccept] at h
  rw [launchedIds]
  split
  · rename_i ha
    rw [ha] at h
    cases h
  · rfl

theorem launchedIds_accept (ps : List Placement) (failed : Bool) :
    launchedIds ⟨.order (Placement.accept ps),failed⟩ = ps.map fun p => p.task.id := by
  show (ps.map Placement.operation).flatMap Operation.launchedIds = _
  induction ps with
  | nil => rfl
  | cons p ps ih =>
    rw [List.map_cons,List.flatMap_cons,ih]
    rfl

end Issued

namespace TaskTable

def launchAll (d : TaskTable) (ps : List Placement) : TaskTable :=
  ps.foldl (fun d p => d.modify p.task.id (Task.withState .launched)) d

theorem stateOf_launchAll (d : TaskTable) (ps : List Placement) (id : String) :
    (d.launchAll ps).stateOf id =
      if id ∈ ps.map (fun p => p.task.id) then (d.stateOf id).map fun _ => .launched
      else d.stateOf id := by
  induction ps generalizing d with
  | nil => rfl
  | cons p ps ih =>
    show stateOf (launchAll (d.modify p.task.id (Task.withState .launched)) ps) id = _
    rw [ih,stateOf_modify]
    by_cases hid : id = p.task.id
    · subst hid
      cases h : d.get? p.task.id <;> simp [stateOf,h]
    · simp [hid]

theorem Keyed.launchAll {d : TaskTable} (h : d.Keyed) (ps : List Placement) :
    (d.launchAll ps).Keyed := by
  induction ps generalizing d with
  | nil => exact h
  | cons p ps ih => exact ih (h.modify (Task.id_withState .launched) p.task.id)

end TaskTable

namespace Session

variable {r : Respondent} {s : Session}

theorem tasks_foldl_markLaunched (s : Session) (ps : List Placement) :
    (ps.foldl markLaunched s).tasks = s.tasks.launchAll ps := by
  induction ps generalizing s with
  | nil => rfl
  | cons p ps ih =>
    have hp : (s.markLaunched p).tasks = s.tasks.modify p.task.id (Task.withState .launched) :=
      tasks_changeTasks ..
    rw [List.foldl_cons,ih,hp]
    rfl

theorem tasks_acceptAll (hr : r.Quiet) (s : Session) (ps : List Placement) (hps : ps ≠ []) :
    (s.acceptAll r ps).tasks =
      if (r.record s.issued (.order (Placement.accept ps))).failed then s.tasks
      else s.tasks.launchAll ps := by
  have htasks : (s.issue r (.order (Placement.accept ps))).2.tasks = s.tasks :=
    tasksAfter_of_quiet hr s _
  rw [acceptAll,if_neg hps,Respondent.record]
  have hfailure : (s.issue r (.order (Placement.accept ps))).1 =
    (r s.issued (.order (Placement.accept ps))).failure := rfl
  rw [← hfailure]
  generalize s.issue r (.order (Placement.accept ps)) = x at htasks
  obtain ⟨failure,s'⟩ := x
  cases failure with
  | none =>
    show (ps.foldl markLaunched s').tasks = s.tasks.launchAll ps
    rw [tasks_foldl_markLaunched]
    exact congrArg (TaskTable.launchAll · ps) htasks
  | some e => exact htasks

theorem tasks_takeIn_of_quiet (hr : r.Quiet) (s : Session) (batch : List Offer) :
    (s.takeIn r batch).tasks = s.tasks := by
  rw [tasks_takeIn,tasksAfter_of_quiet hr,ite_self]

/-- What a step changes of the tasks, and whether it accepts offers. -/
inductive Effect (s s' : Session) (x : Step) (new : List Issued) : Prop
  | idle (htasks : s'.tasks = s.tasks) (hnew : ∀ i ∈ new, i.isAccept = false)
  | reported (status : TaskStatus) (id : TaskId) (f : Task → Task)
      (hx : x = .notice (.update status)) (hid : status.taskId = some id)
      (htasks : s'.tasks = s.tasks.modify id.value f) (hsame : ∀ t, (f t).id = t.id)
      (hstate : (∀ t, (f t).state = t.state) ∨ TaskState.ofCode status.state = .failed ∧
        ((∀ t, (f t).state = .queued) ∨ ∀ t, (f t).state = .failed))
      (hnew : ∀ i ∈ new, i.isAccept = false)
  | accepted (ps : List Placement) (failed : Bool) (earlier : List Issued)
      (hnew : new = earlier ++ [⟨.order (Placement.accept ps),failed⟩])
      (hearlier : ∀ i ∈ earlier, i.isAccept = false)
      (hnodup : (ps.map fun p => p.task.id).Nodup)
      (hqueued : ∀ id ∈ ps.map (fun p => p.task.id), s.tasks.stateOf id = some .queued)
      (htasks : s'.tasks = if failed then s.tasks else s.tasks.launchAll ps)

/-- A report changes the state of one task, and only if the task has failed. -/
theorem effect_handleUpdate (hr : r.Quiet) (s : Session) (status : TaskStatus) :
    Effect s (s.handleUpdate r status) (.notice (.update status)) (s.reportOrders r status) := by
  have hnew : ∀ i ∈ s.reportOrders r status, i.isAccept = false := fun i hi => by
    rw [Issued.isAccept]
    rcases mem_reportOrders r s hi with ha | ⟨_,_,_,ha⟩ <;> rw [ha]
  cases hid : status.taskId with
  | none =>
    rw [handleUpdate_of_no_id s hid]
    exact .idle rfl hnew
  | some id =>
    refine .reported status id _ rfl hid (s.tasks_handleUpdate_of_quiet hr hid) (fun t => ?_) ?_ hnew
    · exact (s.id_verdict id status _).trans (t.id_reported status)
    · rw [verdict]
      by_cases hfailed : TaskState.ofCode status.state = .failed
      · rw [if_pos hfailed]
        refine .inr ⟨hfailed,?_⟩
        cases s.mayRetry id.value with
        | true => exact .inl fun t => rfl
        | false => exact .inr fun t => rfl
      · rw [if_neg hfailed]
        exact .inl fun t => rfl

theorem placements_queued {d : TaskTable} (hd : d.Keyed) (batch : List Offer) :
    let ps := (Matching.greedy batch [] d.queued).filterMap (Matching.placement batch)
    (ps.map fun p => p.task.id).Nodup ∧
      ∀ id ∈ ps.map (fun p => p.task.id), d.stateOf id = some .queued := by
  intro ps
  have hsub : (ps.map Placement.task).Sublist d.queued :=
    (Matching.placement_tasks_sublist _).trans Matching.greedy_tasks_sublist
  have hids : ps.map (fun p => p.task.id) = (ps.map Placement.task).map Task.id :=
    (List.map_map ..).symm
  refine ⟨hids ▸ (hd.nodup_ids .queued).sublist (hsub.map Task.id),fun id hid => ?_⟩
  obtain ⟨p,hp,rfl⟩ := List.mem_map.mp hid
  obtain ⟨hget,hstate⟩ := (hd.mem_inState_iff .queued p.task).mp
    (hsub.subset (List.mem_map_of_mem hp))
  rw [TaskTable.stateOf,hget,Option.map_some,hstate]

/-- A batch changes the tasks of the accepted placements, and only if the master agrees. -/
theorem effect_handleOffers (hr : r.Quiet) (hk : s.tasks.Keyed) (hphase : s.phase = .running)
    (batch : List Offer) :
    Effect s (s.handleOffers r batch) (.notice (.offers batch)) (s.batchOrders r batch) := by
  rw [handleOffers_eq_handle r hphase]
  cases hqueued : s.tasks.hasQueued with
  | false =>
    rw [handle_offers_eq_declineAll r batch hphase hqueued]
    refine .idle (tasks_declineAll _ hr _ _) fun i hi => ?_
    rw [Issued.isAccept]
    rcases mem_batchOrders r s hi with ⟨_,ha⟩ | ⟨_,ha⟩ | ⟨hqueued',_⟩
    · rw [ha]
    · rw [ha]
    · rw [hqueued] at hqueued'
      cases hqueued'
  | true =>
    have htasks := tasks_takeIn_of_quiet hr s batch
    rw [handle_offers_eq_acceptAll r batch hphase hqueued,batchOrders,hqueued,if_pos rfl,
      placements_takeIn,htasks]
    dsimp only
    obtain ⟨hnodup,hwait⟩ := placements_queued hk batch
    generalize hps : (Matching.greedy batch [] s.tasks.queued).filterMap
      (Matching.placement batch) = ps at hnodup hwait
    have hearlier : ∀ i ∈ (if Matching.replaced batch s.offers = [] then []
        else [r.record s.issued (.order (.decline (Matching.replaced batch s.offers) none))]),
        i.isAccept = false := by
      intro i hi
      split at hi
      · cases hi
      · rw [List.mem_singleton.mp hi]
        rfl
    by_cases hnil : ps = []
    · rw [if_pos hnil,List.append_nil]
      refine .idle ?_ hearlier
      rw [acceptAll,if_pos hnil]
      exact htasks
    · rw [if_neg hnil]
      refine .accepted ps _ _ rfl hearlier hnodup hwait ?_
      rw [tasks_acceptAll hr _ ps hnil,tasks_assignQueued,htasks,issued_assignQueued,issued_takeIn]
      rfl

theorem Stepped.effect {x : Step} {s' : Session} {new : List Issued} (h : Stepped r s x s' new)
    (hr : r.Quiet) (hk : s.tasks.Keyed) : Effect s s' x new := by
  cases h with
  | subscribe =>
    refine .idle (tasksAfter_of_quiet hr s _) fun i hi => ?_
    rw [List.mem_singleton.mp hi]
    rfl
  | confirmed id heartbeat master =>
    refine .idle (tasks_handleSubscribed s id heartbeat master hr) fun i hi => ?_
    rw [List.mem_singleton.mp hi]
    rfl
  | batch offers hphase => exact effect_handleOffers hr hk hphase offers
  | reported status hphase => exact effect_handleUpdate hr s status
  | _ => exact .idle rfl fun i hi => by cases hi

namespace Effect

variable {s s' : Session} {x : Step} {new : List Issued}

theorem keyed (h : Effect s s' x new) (hk : s.tasks.Keyed) : s'.tasks.Keyed := by
  cases h with
  | idle htasks _ => exact htasks ▸ hk
  | reported status id f _ _ htasks hsame _ _ => exact htasks ▸ hk.modify hsame id.value
  | accepted ps failed earlier _ _ _ _ htasks =>
    rw [htasks]
    cases failed with
    | true => exact hk
    | false => exact hk.launchAll ps

theorem countP_isAccept_le (h : Effect s s' x new) : new.countP Issued.isAccept ≤ 1 := by
  have hnone : ∀ is : List Issued, (∀ i ∈ is, i.isAccept = false) →
      is.countP Issued.isAccept = 0 := fun is his =>
    List.countP_eq_zero.mpr fun i hi => Bool.eq_false_iff.mp (his i hi)
  cases h with
  | idle _ hnew => exact (hnone new hnew).le.trans (Nat.zero_le 1)
  | reported _ _ _ _ _ _ _ _ hnew => exact (hnone new hnew).le.trans (Nat.zero_le 1)
  | accepted ps failed earlier hnew hearlier _ _ _ =>
    rw [hnew,List.countP_append,hnone earlier hearlier,Nat.zero_add]
    exact List.countP_le_length

theorem nodup_launchedIds (h : Effect s s' x new) : ∀ i ∈ new, i.launchedIds.Nodup := by
  have hnone : ∀ i : Issued, i.isAccept = false → i.launchedIds.Nodup := fun i hi =>
    i.launchedIds_of_not_isAccept hi ▸ List.nodup_nil
  cases h with
  | idle _ hnew => exact fun i hi => hnone i (hnew i hi)
  | reported _ _ _ _ _ _ _ _ hnew => exact fun i hi => hnone i (hnew i hi)
  | accepted ps failed earlier hnew hearlier hnodup _ _ =>
    intro i hi
    rw [hnew] at hi
    rcases List.mem_append.mp hi with hi | hi
    · exact hnone i (hearlier i hi)
    · rw [List.mem_singleton.mp hi,Issued.launchedIds_accept]
      exact hnodup

theorem tasks_of_failed (h : Effect s s' x new) {i : Issued} (hi : i ∈ new) (ha : i.isAccept)
    (hf : i.failed) : s'.tasks = s.tasks := by
  cases h with
  | idle htasks _ => exact htasks
  | reported _ _ _ _ _ _ _ _ hnew => exact absurd ha (Bool.eq_false_iff.mp (hnew i hi))
  | accepted ps failed earlier hnew hearlier _ _ htasks =>
    rw [hnew] at hi
    rcases List.mem_append.mp hi with hi | hi
    · exact absurd ha (Bool.eq_false_iff.mp (hearlier i hi))
    · rw [List.mem_singleton.mp hi] at hf
      rw [htasks,if_pos hf]

theorem stateOf_report {d : TaskTable} {f : Task → Task} {failed : Prop} (id' : String)
    (hstate : (∀ t, (f t).state = t.state) ∨
      failed ∧ ((∀ t, (f t).state = .queued) ∨ ∀ t, (f t).state = .failed)) (id : String) :
    TaskTable.stateOf (d.modify id' f) id = d.stateOf id ∨ id = id' ∧ failed ∧
      (TaskTable.stateOf (d.modify id' f) id = some .queued ∨
        TaskTable.stateOf (d.modify id' f) id = some .failed) := by
  rw [TaskTable.stateOf_modify]
  by_cases hid : id = id'
  · rw [if_pos hid,TaskTable.stateOf]
    cases d.get? id with
    | none => exact .inl rfl
    | some t =>
      rcases hstate with hstate | ⟨hfailed,hstate | hstate⟩
      · exact .inl (congrArg some (hstate t))
      · exact .inr ⟨hid,hfailed,.inl (congrArg some (hstate t))⟩
      · exact .inr ⟨hid,hfailed,.inr (congrArg some (hstate t))⟩
  · exact .inl (if_neg hid)

/-- A task that waits is launched exactly if an order that succeeded says so. -/
theorem launched_iff (h : Effect s s' x new) (id : String) :
    s.tasks.stateOf id = some .queued ∧ s'.tasks.stateOf id = some .launched ↔
      ∃ i ∈ new, i.failed = false ∧ id ∈ i.launchedIds := by
  have hnone : (∀ i ∈ new, i.isAccept = false) → ¬∃ i ∈ new, i.failed = false ∧ id ∈ i.launchedIds := by
    rintro hnew ⟨i,hi,_,hid⟩
    rw [i.launchedIds_of_not_isAccept (hnew i hi)] at hid
    cases hid
  cases h with
  | idle htasks hnew =>
    refine iff_of_false ?_ (hnone hnew)
    rintro ⟨hq,hl⟩
    rw [htasks,hq] at hl
    cases hl
  | reported status id' f _ _ htasks _ hstate hnew =>
    refine iff_of_false ?_ (hnone hnew)
    rintro ⟨hq,hl⟩
    rw [htasks] at hl
    rcases stateOf_report id'.value hstate id with he | ⟨_,_,he | he⟩
    · rw [he,hq] at hl
      cases hl
    · rw [he] at hl
      cases hl
    · rw [he] at hl
      cases hl
  | accepted ps failed earlier hnew hearlier _ hqueued htasks =>
    subst hnew
    have hiff : (∃ i ∈ earlier ++ [⟨.order (Placement.accept ps),failed⟩],
        i.failed = false ∧ id ∈ i.launchedIds) ↔
        failed = false ∧ id ∈ ps.map fun p => p.task.id := by
      rw [← Issued.launchedIds_accept ps failed]
      constructor
      · rintro ⟨i,hi,hf,hid⟩
        rcases List.mem_append.mp hi with hi | hi
        · rw [i.launchedIds_of_not_isAccept (hearlier i hi)] at hid
          cases hid
        · rw [List.mem_singleton.mp hi] at hf hid
          exact ⟨hf,hid⟩
      · rintro ⟨hf,hid⟩
        exact ⟨_,List.mem_append_right _ List.mem_cons_self,hf,hid⟩
    rw [hiff,htasks]
    cases failed with
    | true =>
      refine iff_of_false ?_ (by simp)
      rintro ⟨hq,hl⟩
      rw [if_pos rfl,hq] at hl
      cases hl
    | false =>
      rw [if_neg Bool.false_ne_true,TaskTable.stateOf_launchAll]
      constructor
      · rintro ⟨hq,hl⟩
        split at hl
        · rename_i hid
          exact ⟨rfl,hid⟩
        · rw [hq] at hl
          cases hl
      · rintro ⟨_,hid⟩
        rw [if_pos hid,hqueued id hid]
        exact ⟨rfl,rfl⟩

theorem requeued (h : Effect s s' x new) {id : String} (hs : s.tasks.stateOf id ≠ some .queued)
    (hs' : s'.tasks.stateOf id = some .queued) : ∃ status, x = .notice (.update status) ∧
      status.taskId = some ⟨id⟩ ∧ TaskState.ofCode status.state = .failed := by
  cases h with
  | idle htasks _ =>
    rw [htasks] at hs'
    exact absurd hs' hs
  | reported status id' f hx hid htasks _ hstate _ =>
    rw [htasks] at hs'
    rcases stateOf_report id'.value hstate id with he | ⟨rfl,hfailed,_⟩
    · exact absurd (he ▸ hs') hs
    · exact ⟨status,hx,hid,hfailed⟩
  | accepted ps failed earlier _ _ _ hqueued htasks =>
    rw [htasks] at hs'
    cases failed with
    | true => exact absurd hs' hs
    | false =>
      rw [if_neg Bool.false_ne_true,TaskTable.stateOf_launchAll] at hs'
      split at hs'
      · rename_i hid
        exact absurd (hqueued id hid) hs
      · exact absurd hs' hs

end Effect

/-- A step launches a task if an accept order for it succeeds. -/
def Launches (r : Respondent) (x : Step) (s : Session) (id : String) : Prop :=
  ∃ i ∈ s.newlyIssued r x, i.failed = false ∧ id ∈ i.launchedIds

instance (r : Respondent) (x : Step) (s : Session) (id : String) :
    Decidable (s.Launches r x id) :=
  inferInstanceAs (Decidable (∃ i ∈ s.newlyIssued r x, i.failed = false ∧ id ∈ i.launchedIds))

theorem effect_newlyIssued (hr : r.Quiet) (hk : s.tasks.Keyed) (x : Step) :
    Effect s (s.step r x) x (s.newlyIssued r x) := (stepped r s x).effect hr hk

theorem keyed_play (hr : r.Quiet) (hk : s.tasks.Keyed) (xs : List Step) :
    (s.play r xs).tasks.Keyed := by
  induction xs generalizing s with
  | nil => exact hk
  | cons x xs ih => exact ih ((effect_newlyIssued hr hk x).keyed hk)

/-- Some report of a failure comes between two moments if a task waits again at the second. -/
theorem exists_requeue (hr : r.Quiet) (hk : s.tasks.Keyed) {id : String} (xs : List Step)
    (hs : s.tasks.stateOf id ≠ some .queued)
    (hplay : (s.play r xs).tasks.stateOf id = some .queued) :
    ∃ ys status zs, xs = ys ++ .notice (.update status) :: zs ∧ status.taskId = some ⟨id⟩ ∧
      TaskState.ofCode status.state = .failed ∧
      (s.play r ys).tasks.stateOf id ≠ some .queued ∧
      ((s.play r ys).handle r (.update status)).2.tasks.stateOf id = some .queued := by
  induction xs generalizing s with
  | nil => exact absurd hplay hs
  | cons x xs ih =>
    have heffect := effect_newlyIssued hr hk x
    by_cases hx : (s.step r x).tasks.stateOf id = some .queued
    · obtain ⟨status,rfl,hid,hfailed⟩ := heffect.requeued hs hx
      exact ⟨[],status,xs,rfl,hid,hfailed,hs,hx⟩
    · obtain ⟨ys,status,zs,rfl,hrest⟩ := ih (heffect.keyed hk) hx hplay
      exact ⟨x :: ys,status,zs,rfl,hrest⟩

/-- Over every run in which only the framework changes its tasks, a waiting task is launched
by the accept orders for it that succeed and by nothing else. A step gives at most one such
order, which changes no task if it fails and names none twice. A task is launched again only
after a failure that queued it. -/
theorem launches_of_play (hr : r.Quiet) {s₀ : Session} (hk : s₀.tasks.Keyed) (xs : List Step)
    (x : Step) :
    let s := s₀.play r xs
    let s' := s.step r x
    (∀ id, s.tasks.stateOf id = some .queued ∧ s'.tasks.stateOf id = some .launched ↔
        s.Launches r x id) ∧
      ((∃ i ∈ s.newlyIssued r x, i.isAccept ∧ i.failed) → s'.tasks = s.tasks) ∧
      (s.newlyIssued r x).countP Issued.isAccept ≤ 1 ∧
      (∀ i ∈ s.newlyIssued r x, i.launchedIds.Nodup) ∧
      ∀ id ys y, s.Launches r x id → (s'.play r ys).Launches r y id →
        ∃ ys₁ status ys₂, ys = ys₁ ++ .notice (.update status) :: ys₂ ∧
          status.taskId = some ⟨id⟩ ∧ TaskState.ofCode status.state = .failed ∧
          (s'.play r ys₁).tasks.stateOf id ≠ some .queued ∧
          ((s'.play r ys₁).handle r (.update status)).2.tasks.stateOf id = some .queued := by
  intro s s'
  have hs : s.tasks.Keyed := keyed_play hr hk xs
  have heffect : Effect s s' x (s.newlyIssued r x) := effect_newlyIssued hr hs x
  have hs' : s'.tasks.Keyed := heffect.keyed hs
  refine ⟨heffect.launched_iff,?_,heffect.countP_isAccept_le,heffect.nodup_launchedIds,
    fun id ys y hx hy => ?_⟩
  · rintro ⟨i,hi,ha,hf⟩
    exact heffect.tasks_of_failed hi ha hf
  · obtain ⟨_,hlaunched⟩ := (heffect.launched_iff id).mpr hx
    obtain ⟨hwaits,_⟩ :=
      ((effect_newlyIssued hr (keyed_play hr hs' ys) y).launched_iff id).mpr hy
    refine exists_requeue hr hs' ys ?_ hwaits
    rw [hlaunched]
    exact nofun

/-- The master is out of reach at first. -/
def lateMaster : Respondent := fun issued _ =>
  { failure := if issued = [] then some (.master .noStreamId) else none }

def retriedTask : Task :=
  { oneCpuTask "a" with
    retry := some { name := "once", maxRetries := 1, retryTime := .ofMillis 0 } }

def oneWaiting : Session :=
  { phase := .running, tasks := Dictionary.insert .empty "a" retriedTask }

def wideBatch : Step := .notice (.offers [cpuOffer (some ⟨"wide"⟩) "x" ⟨0x4000000000000000⟩])

def reports : List Step :=
  [.notice (.update { taskId := some ⟨"a"⟩, state := 1 }),
   .notice (.update { taskId := some ⟨"a"⟩, state := 3 })]

/-- The first order fails; the other two launch the task, which fails in between. -/
theorem launches_of_lateMaster :
    lateMaster.Quiet ∧ oneWaiting.tasks.Keyed ∧
      ¬oneWaiting.Launches lateMaster wideBatch "a" ∧
      (oneWaiting.play lateMaster [wideBatch]).Launches lateMaster wideBatch "a" ∧
      (oneWaiting.play lateMaster ([wideBatch,wideBatch] ++ reports)).Launches lateMaster
        wideBatch "a" ∧
      ∃ ys status zs, reports = ys ++ .notice (.update status) :: zs ∧
        status.taskId = some ⟨"a"⟩ ∧ TaskState.ofCode status.state = .failed ∧
        (oneWaiting.play lateMaster ([wideBatch,wideBatch] ++ ys)).tasks.stateOf "a" ≠
          some .queued := by
  have hr : lateMaster.Quiet := fun _ _ => rfl
  have hk : oneWaiting.tasks.Keyed := TaskTable.keyed_empty.insert retriedTask
  have hfirst : (oneWaiting.play lateMaster [wideBatch]).Launches lateMaster wideBatch "a" := by
    decide +kernel
  have hsecond : (oneWaiting.play lateMaster ([wideBatch,wideBatch] ++ reports)).Launches
      lateMaster wideBatch "a" := by decide +kernel
  obtain ⟨_,_,_,_,hbetween⟩ := launches_of_play hr hk [wideBatch] wideBatch
  obtain ⟨ys,status,zs,hys,hid,hfailed,hbefore,_⟩ :=
    hbetween "a" reports wideBatch hfirst hsecond
  exact ⟨hr,hk,by decide +kernel,hfirst,hsecond,ys,status,zs,hys,hid,hfailed,hbefore⟩

end Session
end ClusterFramework
