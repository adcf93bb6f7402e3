import ClusterFramework.Proofs.Controller.Launching
import ClusterFramework.Proofs.Retry.Counting

/-! How often a failed task is queued again. Failures are counted up to the limit of the task's
policy; the one that exceeds it marks the task as failed and forgets the count, so that a
further report of a failure starts to count anew. -/
namespace ClusterFramework

namespace RetryRegistry

def spent (rs : RetryRegistry) (id : String) : Nat :=
  ((rs.get? id).map fun q => q.totalRetries.toNat).getD 0

/-- What is in force for a task has the limit of a policy and keeps it. -/
def Follows (rs : RetryRegistry) (id : String) (p : RetryPolicy) : Prop :=
  ∀ q, rs.get? id = some q → q.maxRetries = p.maxRetries ∧ q.totalRetries ≤ p.maxRetries

variable {rs rs' : RetryRegistry} {id : String} {p : RetryPolicy}

theorem spent_of_get? {q : RetryPolicy} (h : rs.get? id = some q) :
    rs.spent id = q.totalRetries.toNat := by
  rw [spent,h]
  rfl

theorem spent_of_none (h : rs.get? id = none) : rs.spent id = 0 := by
  rw [spent,h]
  rfl

theorem follows_of_none (h : rs.get? id = none) : rs.Follows id p := fun q hq => by
  rw [h] at hq
  cases hq

theorem recordFailure_of_get? {q : RetryPolicy} (h : rs.get? id = some q) :
    rs.recordFailure id = (q.countFailure.1,rs.insert id q.countFailure.2) := by
  rw [recordFailure,h]

theorem spent_congr (h : rs'.get? id = rs.get? id) : rs'.spent id = rs.spent id := by
  rw [spent,spent,h]

theorem Follows.congr (hf : rs.Follows id p) (h : rs'.get? id = rs.get? id) :
    rs'.Follows id p := fun q hq => hf q (h ▸ hq)

theorem Follows.spent_le (h : rs.Follows id p) : rs.spent id ≤ p.maxRetries.toNat := by
  cases hq : rs.get? id with
  | none =>
    rw [spent_of_none hq]
    exact Nat.zero_le _
  | some q =>
    rw [spent_of_get? hq]
    exact (h q hq).2

theorem Follows.adopting (h : rs.Follows id p) (hp : p.totalRetries = 0) :
    ∃ q, (rs.adopting id (some p)).get? id = some q ∧ q.maxRetries = p.maxRetries ∧
      q.totalRetries ≤ p.maxRetries ∧ q.totalRetries.toNat = rs.spent id := by
  rw [RetryRegistry.adopting,Dictionary.contains]
  cases hq : rs.get? id with
  | none =>
    refine ⟨p,by simp,rfl,?_,?_⟩
    · rw [hp]
      exact Nat.zero_le _
    · rw [hp,spent_of_none hq]
      rfl
  | some q =>
    obtain ⟨hmax,htotal⟩ := h q hq
    exact ⟨q,hq,hmax,htotal,(spent_of_get? hq).symm⟩

theorem get?_adopting_of_ne {other : String} (h : other ≠ id) (policy : Option RetryPolicy) :
    (rs.adopting id policy).get? other = rs.get? other := by
  unfold RetryRegistry.adopting
  split
  · rfl
  · cases policy with
    | none => rfl
    | some p => exact (Dictionary.get?_insert ..).trans (if_neg h)

end RetryRegistry

namespace Session

open RetryRegistry

variable {r : Respondent} {s : Session} {id : String} {p : RetryPolicy}

/-- A failure is counted while the policy's limit is not reached; otherwise the count is
forgotten. -/
theorem spent_retriesAfterFailure (hp : p.totalRetries = 0)
    (hpolicy : (s.tasks.get? id).bind Task.retry = some p) (h : s.retries.Follows id p) :
    (s.retriesAfterFailure id).Follows id p ∧
      (if s.mayRetry id then s.retries.spent id < p.maxRetries.toNat ∧
          (s.retriesAfterFailure id).spent id = s.retries.spent id + 1
        else s.retries.spent id = p.maxRetries.toNat ∧ (s.retriesAfterFailure id).spent id = 0) := by
  obtain ⟨q,hq,hmax,htotal,hspent⟩ := h.adopting hp
  rw [retriesAfterFailure,counted,mayRetry,hpolicy,recordFailure_of_get? hq,
    RetryPolicy.countFailure]
  by_cases hlt : q.totalRetries < q.maxRetries
  · have htally : ((s.retries.adopting id (some p)).insert id
        { q with totalRetries := q.totalRetries + 1 }).get? id =
          some { q with totalRetries := q.totalRetries + 1 } := by simp
    have hsucc := RetryPolicy.toNat_countFailure hlt
    have hlt' : q.totalRetries.toNat < q.maxRetries.toNat := hlt
    rw [hmax] at hlt'
    simp only [if_pos hlt,if_true]
    refine ⟨fun q' hq' => ?_,hspent ▸ hlt',?_⟩
    · cases htally.symm.trans hq'
      refine ⟨hmax,?_⟩
      show (q.totalRetries + 1).toNat ≤ p.maxRetries.toNat
      omega
    · rw [spent_of_get? htally,← hspent]
      exact hsucc
  · have hgone : (((s.retries.adopting id (some p)).insert id q).erase id).get? id = none := by simp
    simp only [if_neg hlt,Bool.false_eq_true,if_false]
    refine ⟨follows_of_none hgone,?_,spent_of_none hgone⟩
    rw [← hspent]
    exact Nat.le_antisymm htotal (Nat.le_of_not_lt (hmax ▸ hlt))

theorem get?_retriesAfterFailure_of_ne (s : Session) {other : String} (h : other ≠ id) :
    (s.retriesAfterFailure id).get? other = s.retries.get? other := by
  have hcounted : (s.counted id).retries.get? other = s.retries.get? other := by
    rw [counted,get?_recordFailure,if_neg h]
    exact get?_adopting_of_ne h _
  rw [retriesAfterFailure]
  split
  · exact hcounted
  · rw [Dictionary.get?_erase,if_neg h,hcounted]

def reportsFailure (id : String) : Step → Session → Bool
  | .notice (.update status), s =>
    s.phase = .running && status.taskId = some ⟨id⟩ && TaskState.ofCode status.state = .failed &&
      s.tasks.contains id
  | _, _ => false

def revives (r : Respondent) (x : Step) (s : Session) : Bool :=
  (s.newlyIssued r x).any fun i => i.action = .order .revive

/-- The failure of a task after which it waits for an offer again. -/
def requeues (r : Respondent) (id : String) (x : Step) (s : Session) : Bool :=
  s.reportsFailure id x && s.revives r x

def givesUp (r : Respondent) (id : String) (x : Step) (s : Session) : Bool :=
  s.reportsFailure id x && !s.revives r x

theorem reportsFailure_iff {x : Step} : s.reportsFailure id x ↔
    s.phase = .running ∧ s.tasks.contains id ∧ ∃ status, x = .notice (.update status) ∧
      status.taskId = some ⟨id⟩ ∧ TaskState.ofCode status.state = .failed := by
  constructor
  · intro h
    unfold reportsFailure at h
    split at h
    · simp only [Bool.and_eq_true,decide_eq_true_eq] at h
      obtain ⟨⟨⟨hphase,hid⟩,hfailed⟩,hc⟩ := h
      exact ⟨hphase,hc,_,rfl,hid,hfailed⟩
    · cases h
  · rintro ⟨hphase,hc,status,rfl,hid,hfailed⟩
    simp [reportsFailure,hphase,hid,hfailed,hc]

theorem step_of_reportsFailure {x : Step} (h : s.reportsFailure id x) :
    (s.step r x).retries = s.retriesAfterFailure id ∧ s.revives r x = s.mayRetry id ∧
      (r.Quiet → (s.step r x).tasks.stateOf id =
        some (if s.mayRetry id then .queued else .failed)) := by
  obtain ⟨hphase,hc,status,rfl,hid,hfailed⟩ := reportsFailure_iff.mp h
  have hstep : s.step r (.notice (.update status)) = s.handleUpdate r status := by
    rw [step,handle_of_running hphase]
    rfl
  refine ⟨?_,?_,fun hr => ?_⟩
  · rw [hstep,(kept_handleUpdate r s status).retries,retriesAfterReport,hid]
    exact if_pos ⟨hc,hfailed⟩
  · have hnew : s.newlyIssued r (.notice (.update status)) = s.reportOrders r status :=
      newlyIssued_eq (hstep ▸ issued_handleUpdate_eq r s status)
    rw [revives,hnew,reportOrders,hid]
    cases hmay : s.mayRetry id with
    | true => simp [hc,hfailed,hmay,Respondent.record]
    | false =>
      simp only [hmay,Bool.false_eq_true,and_false,if_false,List.nil_append]
      split <;> simp [Respondent.record]
  · rw [hstep,s.tasks_handleUpdate_of_quiet hr hid,TaskTable.stateOf_modify,if_pos rfl,verdict,
      if_pos hfailed]
    obtain ⟨t,ht⟩ := (Dictionary.contains_iff ..).mp hc
    rw [ht]
    cases s.mayRetry id <;> rfl

/-- Without a report of its failure nothing is counted for a task. -/
theorem get?_retries_step {x : Step} (h : s.reportsFailure id x = false) :
    (s.step r x).retries.get? id = s.retries.get? id := by
  rcases (stepped r s x).retries_eq with he | ⟨hphase,status,rfl,he⟩
  · rw [he]
  · rw [he,retriesAfterReport]
    cases hid : status.taskId with
    | none => rfl
    | some id' =>
      dsimp only
      split
      · rename_i hfailed
        refine get?_retriesAfterFailure_of_ne s fun heq => ?_
        subst heq
        rw [reportsFailure_iff.mpr ⟨hphase,hfailed.1,status,rfl,hid,hfailed.2⟩] at h
        cases h
      · rfl

def countSteps (r : Respondent) (p : Step → Session → Bool) : List Step → Session → Nat
  | [], _ => 0
  | x :: xs, s => (p x s).toNat + countSteps r p xs (s.step r x)

/-- A task that is known has a certain policy, and what is in force for it follows that. -/
structure Governed (id : String) (p : RetryPolicy) (s : Session) : Prop where
  policy : ∀ t, s.tasks.get? id = some t → t.retry = some p
  follows : s.retries.Follows id p

theorem Governed.bind_retry {s : Session} (h : Governed id p s) (hc : s.tasks.contains id) :
    (s.tasks.get? id).bind Task.retry = some p := by
  obtain ⟨t,ht⟩ := (Dictionary.contains_iff ..).mp hc
  rw [ht]
  exact h.policy t ht

variable (r) in
/-- A failure is counted until the limit is reached; giving up takes back all that was. -/
theorem Governed.step (h : Governed id p s) (hp : p.totalRetries = 0) (x : Step) :
    Governed id p (s.step r x) ∧
      (s.requeues r id x).toNat + s.retries.spent id =
        p.maxRetries.toNat * (s.givesUp r id x).toNat + (s.step r x).retries.spent id ∧
      (s.reportsFailure id x →
        (s.requeues r id x ↔ s.retries.spent id < p.maxRetries.toNat)) := by
  have hpolicy : ∀ t, (s.step r x).tasks.get? id = some t → t.retry = some p := fun t' ht' => by
    obtain ⟨t,ht,hsame⟩ := (stepped r s x).keepsPolicies id t' ht'
    exact hsame.trans (h.policy t ht)
  rw [requeues,givesUp]
  cases hx : s.reportsFailure id x with
  | false =>
    have hsame := get?_retries_step (r := r) hx
    refine ⟨⟨hpolicy,h.follows.congr hsame⟩,?_,nofun⟩
    rw [spent_congr hsame]
    simp
  | true =>
    obtain ⟨hretries,hrevives,_⟩ := step_of_reportsFailure (r := r) hx
    have hc := (reportsFailure_iff.mp hx).2.1
    obtain ⟨hfollows,hspent⟩ := spent_retriesAfterFailure hp (h.bind_retry hc) h.follows
    rw [hretries,hrevives]
    refine ⟨⟨hpolicy,hretries ▸ hfollows⟩,?_⟩
    cases hmay : s.mayRetry id with
    | true =>
      rw [hmay,if_pos rfl] at hspent
      simp [hspent,Nat.add_comm]
    | false =>
      rw [hmay,if_neg Bool.false_ne_true] at hspent
      simp [hspent]

theorem Governed.play {s : Session} (h : Governed id p s) (hp : p.totalRetries = 0)
    (xs : List Step) :
    Governed id p (s.play r xs) ∧
      countSteps r (requeues r id) xs s + s.retries.spent id =
        p.maxRetries.toNat * countSteps r (givesUp r id) xs s +
          (s.play r xs).retries.spent id := by
  induction xs generalizing s with
  | nil => exact ⟨h,by simp [countSteps]⟩
  | cons x xs ih =>
    obtain ⟨hstep,hfirst,_⟩ := h.step r hp x
    obtain ⟨hplay,hrest⟩ := ih hstep
    refine ⟨hplay,?_⟩
    rw [countSteps,countSteps,Nat.mul_add,play_cons]
    omega

theorem requeues_of_stateOf (hr : r.Quiet) (hk : s.tasks.Keyed) {x : Step}
    (hs : s.tasks.stateOf id ≠ some .queued)
    (hs' : (s.step r x).tasks.stateOf id = some .queued) : s.requeues r id x := by
  obtain ⟨status,rfl,hid,hfailed⟩ := (effect_newlyIssued hr hk x).requeued hs hs'
  have hphase : s.phase = .running := by
    by_contra hphase
    obtain ⟨e,he⟩ := handle_of_ignored (r := r) (n := .update status) hphase rfl
    rw [step,he] at hs'
    exact hs hs'
  have hc : s.tasks.contains id := by
    obtain ⟨t',ht',_⟩ := Option.map_eq_some_iff.mp hs'
    obtain ⟨t,ht,_⟩ := (stepped r s _).keepsPolicies id t' ht'
    exact (Dictionary.contains_iff ..).mpr ⟨t,ht⟩
  have hreport : s.reportsFailure id (.notice (.update status)) :=
    reportsFailure_iff.mpr ⟨hphase,hc,status,rfl,hid,hfailed⟩
  obtain ⟨_,hrevives,hstate⟩ := step_of_reportsFailure (r := r) hreport
  rw [hstate hr] at hs'
  rw [requeues,hreport,hrevives,Bool.true_and]
  cases hmay : s.mayRetry id with
  | true => rfl
  | false =>
    rw [hmay] at hs'
    cases hs'

/-- A task whose policy allows `n` retries is queued again at most `n` times before it is given
up, and at most `n` times between one time it is given up and the next: it is given up exactly
at a failure that comes when `n` retries were counted, and the count starts again at zero. If
only the framework changes its tasks, the task waits again after a failure that is counted and
after nothing else, and counts as failed once it is given up. -/
theorem requeues_of_play {s₀ : Session}
    (hpolicy : ∀ t, s₀.tasks.get? id = some t → t.retry = some p) (hp : p.totalRetries = 0)
    (hempty : s₀.retries.get? id = none) (xs : List Step) :
    let n := p.maxRetries.toNat
    let s := s₀.play r xs
    countSteps r (requeues r id) xs s₀ =
        n * countSteps r (givesUp r id) xs s₀ + s.retries.spent id ∧
      s.retries.spent id ≤ n ∧
      (∀ x, s.reportsFailure id x → (s.requeues r id x ↔ s.retries.spent id < n)) ∧
      (r.Quiet → ∀ x, s.reportsFailure id x → (s.step r x).tasks.stateOf id =
        some (if s.requeues r id x then .queued else .failed)) ∧
      (r.Quiet → s₀.tasks.Keyed → ∀ x, s.tasks.stateOf id ≠ some .queued →
        (s.step r x).tasks.stateOf id = some .queued → s.requeues r id x) := by
  intro n s
  obtain ⟨hgoverned,hcount⟩ := Governed.play (r := r) ⟨hpolicy,follows_of_none hempty⟩ hp xs
  rw [spent_of_none hempty,Nat.add_zero] at hcount
  refine ⟨hcount,hgoverned.follows.spent_le,fun x => (hgoverned.step r hp x).2.2,
    fun hr x hx => ?_,fun hr hk x => requeues_of_stateOf hr (keyed_play hr hk xs)⟩
  obtain ⟨_,hrevives,hstate⟩ := step_of_reportsFailure (r := r) hx
  rw [hstate hr,requeues,hx,hrevives,Bool.true_and]

def onceWaiting : Session := { tasks := Dictionary.insert .empty "a" retriedTask }

def failureReport (mark : UInt8) : Step :=
  .notice (.update
    { taskId := some ⟨"a"⟩, state := 3, agentId := some ⟨"x"⟩, uuid := some [mark] })

/-- Two failures, of which the second exceeds the limit and is reported once more. -/
def redelivered : List Step :=
  [.notice (.subscribed ⟨"first"⟩ none none),failureReport 1,failureReport 2,failureReport 2]

theorem requeues_of_redelivered :
    let r : Respondent := fun _ _ => {}
    let s := onceWaiting.play r (redelivered.take 3)
    countSteps r (requeues r "a") (redelivered.take 3) onceWaiting = 1 ∧
      countSteps r (givesUp r "a") (redelivered.take 3) onceWaiting = 1 ∧
      s.tasks.stateOf "a" = some .failed ∧ s.requeues r "a" (failureReport 2) := by
  intro r s
  have hpolicy : ∀ t, onceWaiting.tasks.get? "a" = some t →
      t.retry = some { name := "once", maxRetries := 1, retryTime := .ofMillis 0 } := fun t ht => by
    cases (Dictionary.get?_insert ..).symm.trans ht
    rfl
  obtain ⟨hcount,_,hrequeues,_⟩ :=
    requeues_of_play (r := r) hpolicy rfl rfl (redelivered.take 3)
  have hgivesUp : countSteps r (givesUp r "a") (redelivered.take 3) onceWaiting = 1 := by
    decide +kernel
  have hspent : s.retries.spent "a" = 0 := by decide +kernel
  rw [hgivesUp,hspent] at hcount
  exact ⟨hcount,hgivesUp,by decide +kernel,
    (hrequeues _ (by decide +kernel)).mpr (hspent ▸ by decide)⟩

/-- The limit does not hold for a whole run: the task was given up, and waits again. -/
theorem requeued_after_failed :
    let r : Respondent := fun _ _ => {}
    onceWaiting.retries = .empty ∧
      (onceWaiting.tasks.get? "a").bind Task.retry =
        some { name := "once", maxRetries := 1, retryTime := .ofMillis 0 } ∧
      (onceWaiting.play r (redelivered.take 3)).tasks.stateOf "a" = some .failed ∧
      (onceWaiting.play r redelivered).tasks.stateOf "a" = some .queued ∧
      ¬countSteps r (requeues r "a") redelivered onceWaiting ≤ 1 := by
  decide +kernel

end Session
end ClusterFramework
