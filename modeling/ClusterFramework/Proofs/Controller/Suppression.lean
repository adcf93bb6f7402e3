import ClusterFramework.Proofs.Controller.Launching
import Mathlib.Data.List.TakeWhile

/-! Offers are stopped only while no task waits, and whoever queues a task again asks for them.
As long as nobody else changes the tasks, a framework with a task that waits has therefore not
stopped its offers. -/
namespace ClusterFramework

namespace Issued

/-- What was issued since offers were last asked for, the latest first; everything if they
never were. -/
def sinceRevive (is : List Issued) : List Issued :=
  is.reverse.takeWhile fun i => i.action ≠ .order .revive

def Suppressed (is : List Issued) : Prop := ∃ i ∈ sinceRevive is, i.action = .order .suppress

instance (is : List Issued) : Decidable (Suppressed is) :=
  inferInstanceAs (Decidable (∃ i ∈ sinceRevive is, i.action = .order .suppress))

theorem mem_of_mem_sinceRevive {is : List Issued} {i : Issued} (h : i ∈ sinceRevive is) : i ∈ is :=
  List.mem_reverse.mp ((List.takeWhile_sublist _).subset h)

theorem sinceRevive_append_of_revive {is new : List Issued}
    (h : ∃ i ∈ new, i.action = .order .revive) : sinceRevive (is ++ new) = sinceRevive new := by
  rw [sinceRevive,List.reverse_append,List.takeWhile_append,if_neg]
  · rfl
  · intro hall
    obtain ⟨i,hi,hrevive⟩ := h
    have hkept := List.takeWhile_eq_self_iff.mp
      ((List.takeWhile_prefix _).eq_of_length hall) i (List.mem_reverse.mpr hi)
    exact of_decide_eq_true hkept hrevive

theorem mem_sinceRevive_append {is new : List Issued} {i : Issued}
    (h : i ∈ sinceRevive (is ++ new)) : i ∈ new ∨ i ∈ sinceRevive is := by
  rw [sinceRevive,List.reverse_append,List.takeWhile_append] at h
  split at h
  · rcases List.mem_append.mp h with h | h
    · exact .inl (List.mem_reverse.mp h)
    · exact .inr h
  · exact .inl (List.mem_reverse.mp ((List.takeWhile_sublist _).subset h))

end Issued

namespace Session

open Issued

variable {r : Respondent} {s : Session}

/-- What a step means for the tasks that wait, and for the offers that are wanted. -/
inductive Demand (s s' : Session) (new : List Issued) : Prop
  | none (hqueued : s.tasks.hasQueued = false) (htasks : s'.tasks = s.tasks)
  | renewed (hrevive : ∃ i ∈ new, i.action = .order .revive)
      (hnew : ∀ i ∈ new, i.action ≠ .order .suppress)
  | kept (hwaits : ∀ id, s'.tasks.stateOf id = some .queued → s.tasks.stateOf id = some .queued)
      (hnew : ∀ i ∈ new, i.action ≠ .order .suppress)

theorem Demand.of_tasks {s' : Session} {new : List Issued} (htasks : s'.tasks = s.tasks)
    (hnew : ∀ i ∈ new, i.action ≠ .order .suppress) : Demand s s' new :=
  .kept (fun _ hid => htasks ▸ hid) hnew

theorem demand_handleOffers (hr : r.Quiet) (hphase : s.phase = .running) (batch : List Offer) :
    Demand s (s.handleOffers r batch) (s.batchOrders r batch) := by
  rw [handleOffers_eq_handle r hphase]
  cases hqueued : s.tasks.hasQueued with
  | false =>
    rw [handle_offers_eq_declineAll r batch hphase hqueued]
    exact .none hqueued (tasks_declineAll _ hr _ _)
  | true =>
    have hnew : ∀ i ∈ s.batchOrders r batch, i.action ≠ .order .suppress := fun i hi => by
      rcases mem_batchOrders r s hi with ⟨_,ha⟩ | ⟨hnone,_⟩ | ⟨_,ha⟩
      · rw [ha]
        exact nofun
      · rw [hqueued] at hnone
        cases hnone
      · rw [ha]
        exact nofun
    refine .kept (fun id hid => ?_) hnew
    have htasks : (s.takeIn r batch).assignQueued.2.tasks = s.tasks := by
      rw [tasks_assignQueued,tasks_takeIn_of_quiet hr]
    rw [handle_offers_eq_acceptAll r batch hphase hqueued] at hid
    generalize (s.takeIn r batch).assignQueued.1 = ps at hid
    by_cases hnil : ps = []
    · rw [acceptAll,if_pos hnil,tasks_note,htasks] at hid
      exact hid
    · rw [tasks_acceptAll hr _ ps hnil,htasks] at hid
      split at hid
      · exact hid
      · rw [TaskTable.stateOf_launchAll] at hid
        split at hid
        · obtain ⟨_,_,h⟩ := Option.map_eq_some_iff.mp hid
          cases h
        · exact hid

theorem demand_handleUpdate (hr : r.Quiet) (s : Session) (status : TaskStatus) :
    Demand s (s.handleUpdate r status) (s.reportOrders r status) := by
  have hnew : ∀ i ∈ s.reportOrders r status, i.action ≠ .order .suppress := fun i hi => by
    rcases mem_reportOrders r s hi with ha | ⟨_,_,_,ha⟩ <;> rw [ha] <;> exact nofun
  cases hid : status.taskId with
  | none =>
    rw [handleUpdate_of_no_id s hid]
    exact .of_tasks rfl hnew
  | some id =>
    by_cases hagain : s.tasks.contains id.value ∧ TaskState.ofCode status.state = .failed ∧
        s.mayRetry id.value
    · refine .renewed ⟨r.record s.issued (.order .revive),?_,rfl⟩ hnew
      rw [reportOrders,hid]
      dsimp only
      rw [if_pos hagain]
      exact List.mem_append_left _ List.mem_cons_self
    · refine .kept (fun other hother => ?_) hnew
      rw [tasks_handleUpdate_of_quiet s hr hid] at hother
      cases hknown : s.tasks.contains id.value with
      | false =>
        rw [Dictionary.modify_of_not_contains hknown] at hother
        exact hother
      | true =>
        rw [TaskTable.stateOf_modify] at hother
        split at hother
        · obtain ⟨t,ht,hstate⟩ := Option.map_eq_some_iff.mp hother
          rw [TaskTable.stateOf,ht,← hstate]
          rw [Function.comp_apply,verdict] at hstate ⊢
          split at hstate
          · rename_i hfailed
            rw [if_neg fun hmay => hagain ⟨hknown,hfailed,hmay⟩] at hstate
            cases hstate
          · rename_i hfailed
            rw [if_neg hfailed]
            rfl
        · exact hother

theorem Stepped.demand {x : Step} {s' : Session} {new : List Issued} (h : Stepped r s x s' new)
    (hr : r.Quiet) : Demand s s' new := by
  cases h with
  | subscribe =>
    refine .of_tasks (tasksAfter_of_quiet hr s _) fun i hi => ?_
    rw [List.mem_singleton.mp hi]
    exact nofun
  | confirmed id heartbeat master =>
    refine .of_tasks (tasks_handleSubscribed s id heartbeat master hr) fun i hi => ?_
    rw [List.mem_singleton.mp hi]
    exact nofun
  | batch offers hphase => exact demand_handleOffers hr hphase offers
  | reported status hphase => exact demand_handleUpdate hr s status
  | _ => exact .of_tasks rfl fun i hi => by cases hi

theorem Demand.not_suppressed {s' : Session} {is new : List Issued} (h : Demand s s' new)
    (his : s.tasks.hasQueued → ¬Suppressed is) (hqueued : s'.tasks.hasQueued) :
    ¬Suppressed (is ++ new) := by
  rintro ⟨i,hi,ha⟩
  cases h with
  | none hnone htasks =>
    rw [htasks,hnone] at hqueued
    cases hqueued
  | renewed hrevive hnew =>
    rw [sinceRevive_append_of_revive hrevive] at hi
    exact hnew i (mem_of_mem_sinceRevive hi) ha
  | kept hwaits hnew =>
    rcases mem_sinceRevive_append hi with hi | hi
    · exact hnew i hi ha
    · obtain ⟨id,hid⟩ := (TaskTable.hasQueued_iff_stateOf _).mp hqueued
      exact his ((TaskTable.hasQueued_iff_stateOf _).mpr ⟨id,hwaits id hid⟩) ⟨i,hi,ha⟩

/-- Over every run in which only the framework changes its tasks, offers are not stopped while
a task waits: since they were last asked for, or since the start, no order to stop them has
been issued, whether it succeeded or not. -/
theorem not_suppressed_of_play (hr : r.Quiet) (s₀ : Session) (xs : List Step) :
    let s := s₀.play r xs
    ∃ new, s.issued = s₀.issued ++ new ∧ (s.tasks.hasQueued → ¬Suppressed new) := by
  intro s
  suffices h : ∀ (earlier : List Issued) (s₁ : Session), s₁.issued = s₀.issued ++ earlier →
      (s₁.tasks.hasQueued → ¬Suppressed earlier) → ∃ new,
        (s₁.play r xs).issued = s₀.issued ++ new ∧
          ((s₁.play r xs).tasks.hasQueued → ¬Suppressed new) by
    exact h [] s₀ (List.append_nil _).symm fun _ ⟨_,hi,_⟩ => by cases hi
  induction xs with
  | nil => exact fun earlier s₁ hissued hawake => ⟨earlier,hissued,hawake⟩
  | cons x xs ih =>
    intro earlier s₁ hissued hawake
    have hdemand := (stepped r s₁ x).demand hr
    refine ih (earlier ++ s₁.newlyIssued r x) (s₁.step r x) ?_ fun hqueued =>
      hdemand.not_suppressed hawake hqueued
    rw [issued_step,hissued,List.append_assoc]

def oneRunning : Session :=
  { phase := .running, tasks := Dictionary.insert .empty "a" { retriedTask with state := .launched } }

/-- Offers are stopped, which fails; then the task fails and waits again. -/
theorem not_suppressed_of_oneRunning :
    lateMaster.Quiet ∧ Suppressed (oneRunning.play lateMaster [wideBatch]).issued ∧
      (oneRunning.play lateMaster (wideBatch :: reports)).tasks.hasQueued ∧
      ¬Suppressed (oneRunning.play lateMaster (wideBatch :: reports)).issued := by
  have hr : lateMaster.Quiet := fun _ _ => rfl
  have hqueued : (oneRunning.play lateMaster (wideBatch :: reports)).tasks.hasQueued := by
    decide +kernel
  obtain ⟨new,hnew,hawake⟩ := not_suppressed_of_play hr oneRunning (wideBatch :: reports)
  refine ⟨hr,by decide +kernel,hqueued,?_⟩
  rw [hnew]
  exact hawake hqueued

end Session
end ClusterFramework
