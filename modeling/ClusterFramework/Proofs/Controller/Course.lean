import ClusterFramework.Controller.Dispatch
import ClusterFramework.Proofs.Controller.Matching
import ClusterFramework.Proofs.Controller.Report

/-! A session goes on step by step, and every run is a list of steps. In between the notices
nothing happens but that subscriptions begin, remarks are logged, and the framework stops. -/
namespace ClusterFramework

inductive Step where
  | remark (e : Log.Entry)
  | subscribe
  | notice (n : Notice)
  | stop
  deriving DecidableEq,Repr

namespace Session

def step (r : Respondent) : Step → Session → Session
  | .remark e, s => s.note e
  | .subscribe, s => { { s with phase := .init }.perform r .subscribe with phase := .awaitingId }
  | .notice n, s => (s.handle r n).2
  | .stop, s => { s with phase := .init, cancelled := true }

def play (r : Respondent) : List Step → Session → Session
  | [], s => s
  | x :: xs, s => (s.step r x).play r xs

variable (r : Respondent)

section

variable {r} {s : Session}

theorem handle_of_running (h : s.phase = .running) (n : Notice) :
    s.handle r n = s.dispatch r n := by
  simp [handle,h]

theorem handle_of_early {n : Notice} (h : isEarly n) : s.handle r n = s.dispatch r n := by
  simp [handle,h]

/-- Before a subscription is confirmed most notices only leave a remark. -/
theorem handle_of_ignored {n : Notice} (hphase : s.phase ≠ .running) (hn : isEarly n = false) :
    ∃ e : Log.Entry, s.handle r n = (.proceed,s.note e) := by
  refine ⟨.saying .warn "Ignoring event received before SUBSCRIBED" [("event",.text n.name)],?_⟩
  simp [handle,hphase,hn]

variable (s) (id : FrameworkId)

theorem storeId_eq : ∃ store log, s.storeId id = { s with store := store, log := log } := by
  rw [storeId]
  split
  · exact ⟨s.store,s.log,rfl⟩
  · dsimp only
    split
    · exact ⟨_,s.log,rfl⟩
    · exact ⟨_,_,rfl⟩

variable (heartbeat : Option Duration) (master : Option MasterInfo)

/-- A confirmation tells the scheduler its id, which may be stored besides. -/
theorem handleSubscribed_eq (r : Respondent) : ∃ store log,
    s.handleSubscribed r id heartbeat master =
      { { s with store := store, log := log }.perform r (.setFrameworkId id) with
        frameworkId := some id
        phase := .running } := by
  rw [handleSubscribed]
  dsimp only
  generalize hnoted : s.note _ = noted
  obtain ⟨store,log,hstored⟩ := storeId_eq noted id
  rw [hstored,← hnoted]
  exact ⟨store,log,rfl⟩

theorem tasks_handleSubscribed (hr : r.Quiet) :
    (s.handleSubscribed r id heartbeat master).tasks = s.tasks := by
  obtain ⟨store,log,h⟩ := s.handleSubscribed_eq id heartbeat master r
  rw [h]
  exact tasksAfter_of_quiet hr _ _

theorem issued_handleSubscribed : (s.handleSubscribed r id heartbeat master).issued =
    s.issued ++ [⟨.setFrameworkId id,false⟩] := by
  obtain ⟨store,log,h⟩ := s.handleSubscribed_eq id heartbeat master r
  rw [h]
  rfl

end

@[simp] theorem play_nil (s : Session) : s.play r [] = s := rfl

@[simp] theorem play_cons (x : Step) (xs : List Step) (s : Session) :
    s.play r (x :: xs) = (s.step r x).play r xs := rfl

theorem play_append (xs ys : List Step) (s : Session) :
    s.play r (xs ++ ys) = (s.play r xs).play r ys := by
  induction xs generalizing s with
  | nil => rfl
  | cons x xs ih => exact ih (s.step r x)

def newlyIssued (r : Respondent) (x : Step) (s : Session) : List Issued :=
  (s.step r x).issued.drop s.issued.length

theorem newlyIssued_eq {r : Respondent} {s : Session} {x : Step} {new : List Issued}
    (h : (s.step r x).issued = s.issued ++ new) : s.newlyIssued r x = new := by
  rw [newlyIssued,h,List.drop_left]

/-- The steps of a subscription: its notices up to one that ends it, or until the framework
is asked to stop. -/
def consumeSteps : List Notice → Session → List Step
  | [], s =>
    if s.cancelled then [] else [.remark (.saying .warn "Subscription ended, reconnecting")]
  | n :: ns, s =>
    if s.cancelled then []
    else
      .notice n ::
        match s.handle r n with
        | (.reconnect,_) => []
        | (.proceed,s) => consumeSteps ns s

theorem consume_eq_play (ns : List Notice) (s : Session) :
    s.consume r ns = s.play r (consumeSteps r ns s) := by
  induction ns generalizing s with
  | nil =>
    rw [consume,consumeSteps]
    split
    · rfl
    · rfl
  | cons n ns ih =>
    rw [consume,consumeSteps]
    split
    · rfl
    · have hstep : s.step r (.notice n) = (s.handle r n).2 := rfl
      rw [play_cons,hstep]
      generalize s.handle r n = x
      obtain ⟨flow,s'⟩ := x
      cases flow with
      | reconnect => rfl
      | proceed => exact ih s'

/-- The steps of one subscription after the other, until the framework is asked to stop. -/
def followSteps : List (List Notice) → Session → List Step
  | [], s => if s.cancelled then [.stop] else [.subscribe,.stop]
  | ns :: rest, s =>
    if s.cancelled then [.stop]
    else
      let s := s.step r .subscribe
      .subscribe :: (consumeSteps r ns s ++ followSteps rest (s.consume r ns))

theorem step_stop_of_cancelled {s : Session} (h : s.cancelled) :
    s.step r .stop = { s with phase := .init } := by
  obtain ⟨_,_,_,_,_,_,cancelled,_,_,_⟩ := s
  cases h
  rfl

theorem follow_eq_play (subscriptions : List (List Notice)) (s : Session) :
    { s.follow r subscriptions with phase := .init } =
      s.play r (followSteps r subscriptions s) := by
  induction subscriptions generalizing s with
  | nil =>
    rw [follow,followSteps]
    split
    · rename_i hstop
      exact (step_stop_of_cancelled r hstop).symm
    · rfl
  | cons ns rest ih =>
    rw [follow,followSteps]
    split
    · rename_i hstop
      exact (step_stop_of_cancelled r hstop).symm
    · dsimp only
      rw [play_cons,play_append,← consume_eq_play]
      exact ih ((s.step r .subscribe).consume r ns)

/-- The steps of a run, from its first remark to its last. -/
def runSteps (subscriptions : List (List Notice)) (s : Session) : List Step :=
  let started : Log.Entry := .saying .info "Event controller started"
  .remark started :: followSteps r subscriptions (s.note started) ++
    [.remark (.saying .info "Event controller stopped")]

theorem run_eq_play (subscriptions : List (List Notice)) (s : Session) :
    s.run r subscriptions = s.play r (runSteps r subscriptions s) := by
  let started : Log.Entry := .saying .info "Event controller started"
  let stopped : Log.Entry := .saying .info "Event controller stopped"
  have hfollow := follow_eq_play r subscriptions (s.note started)
  rw [runSteps,play_append,play_cons]
  exact congrArg (note · stopped) hfollow

end Session
end ClusterFramework
