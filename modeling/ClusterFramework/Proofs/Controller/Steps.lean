import ClusterFramework.Proofs.Controller.Course

/-! What a step does, and what it leaves alone. Orders and changes of tasks touch neither the
phase nor what is held, counted or stored, and no task ever gets another retry policy. A batch
changes the offers besides, a report the retries, and a confirmation the framework id. -/
namespace ClusterFramework

namespace TaskTable

/-- Every task of the second table stands in the first one too, with the same policy. -/
def KeepsPolicies (d d' : TaskTable) : Prop :=
  ∀ id t', d'.get? id = some t' → ∃ t, d.get? id = some t ∧ t'.retry = t.retry

theorem KeepsPolicies.refl (d : TaskTable) : KeepsPolicies d d := fun _ t h => ⟨t,h,rfl⟩

theorem KeepsPolicies.trans {d d' d'' : TaskTable} (h : KeepsPolicies d d')
    (h' : KeepsPolicies d' d'') : KeepsPolicies d d'' := fun id t'' ht => by
  obtain ⟨t',ht',hpolicy'⟩ := h' id t'' ht
  obtain ⟨t,ht,hpolicy⟩ := h id t' ht'
  exact ⟨t,ht,hpolicy'.trans hpolicy⟩

theorem keepsPolicies_erase (d : TaskTable) (k : String) : KeepsPolicies d (d.erase k) :=
  fun id t ht => by
    rw [Dictionary.get?_erase] at ht
    split at ht
    · cases ht
    · exact ⟨t,ht,rfl⟩

theorem keepsPolicies_foldl_erase (d : TaskTable) (ks : List String) :
    KeepsPolicies d (ks.foldl Dictionary.erase d) := by
  induction ks generalizing d with
  | nil => exact .refl d
  | cons k ks ih => exact (keepsPolicies_erase d k).trans (ih (d.erase k))

theorem keepsPolicies_modify (d : TaskTable) (k : String) {f : Task → Task}
    (hf : ∀ t, (f t).retry = t.retry) : KeepsPolicies d (d.modify k f) := fun id t' ht => by
  rw [Dictionary.get?_modify] at ht
  split at ht
  · obtain ⟨t,ht,rfl⟩ := Option.map_eq_some_iff.mp ht
    exact ⟨t,‹_›,hf t⟩
  · exact ⟨t',ht,rfl⟩

end TaskTable

namespace Session

/-- What neither an order nor a change of tasks touches. -/
structure Kept (s s' : Session) : Prop where
  phase : s'.phase = s.phase
  offers : s'.offers = s.offers
  retries : s'.retries = s.retries
  store : s'.store = s.store
  frameworkId : s'.frameworkId = s.frameworkId
  policies : s.tasks.KeepsPolicies s'.tasks

namespace Kept

variable {s s' s'' : Session}

theorem refl (s : Session) : Kept s s := ⟨rfl,rfl,rfl,rfl,rfl,.refl _⟩

theorem trans (h : Kept s s') (h' : Kept s' s'') : Kept s s'' :=
  ⟨h'.phase.trans h.phase,h'.offers.trans h.offers,h'.retries.trans h.retries,
    h'.store.trans h.store,h'.frameworkId.trans h.frameworkId,h.policies.trans h'.policies⟩

theorem withOffers (h : Kept s s') (pool : OfferPool) :
    Kept { s with offers := pool } { s' with offers := pool } :=
  ⟨h.phase,rfl,h.retries,h.store,h.frameworkId,h.policies⟩

theorem withRetries (h : Kept s s') (rs : RetryRegistry) :
    Kept { s with retries := rs } { s' with retries := rs } :=
  ⟨h.phase,h.offers,rfl,h.store,h.frameworkId,h.policies⟩

end Kept

variable (r : Respondent) (s : Session)

theorem kept_note (e : Log.Entry) : Kept s (s.note e) := ⟨rfl,rfl,rfl,rfl,rfl,.refl _⟩

theorem kept_issue (a : Action) : Kept s (s.issue r a).2 :=
  ⟨rfl,rfl,rfl,rfl,rfl,TaskTable.keepsPolicies_foldl_erase _ _⟩

theorem kept_perform (a : Action) : Kept s (s.perform r a) :=
  ⟨rfl,rfl,rfl,rfl,rfl,TaskTable.keepsPolicies_foldl_erase _ _⟩

theorem kept_order (o : Order) (complaint : String) : Kept s (s.order r o complaint) := by
  rcases order_eq r s o complaint with h | ⟨e,h⟩
  · rw [h]
    exact kept_issue r s _
  · rw [h]
    exact (kept_issue r s _).trans (kept_note _ e)

theorem kept_changeTasks (id : String) {f : Task → Task} (hf : ∀ t, (f t).retry = t.retry)
    (complaint : String) : Kept s (s.changeTasks id (TaskTable.change · id f) complaint) := by
  have htasks := tasks_changeTasks s id f complaint
  rw [changeTasks] at htasks ⊢
  cases h : s.tasks.change id f with
  | ok d =>
    rw [h] at htasks
    refine ⟨rfl,rfl,rfl,rfl,rfl,?_⟩
    rw [htasks]
    exact s.tasks.keepsPolicies_modify id hf
  | error e => exact kept_note s _

theorem kept_markLaunched (p : Placement) : Kept s (s.markLaunched p) :=
  kept_changeTasks s p.task.id (f := Task.withState .launched) (fun _ => rfl) _

theorem kept_foldl_markLaunched (ps : List Placement) : Kept s (ps.foldl markLaunched s) := by
  induction ps generalizing s with
  | nil => exact .refl s
  | cons p ps ih => exact (kept_markLaunched s p).trans (ih (s.markLaunched p))

theorem kept_acceptAll (ps : List Placement) : Kept s (s.acceptAll r ps) := by
  rw [acceptAll]
  split
  · exact kept_note s _
  · have hissue := kept_issue r s (.order (Placement.accept ps))
    generalize s.issue r (.order (Placement.accept ps)) = x at hissue
    obtain ⟨failure,s'⟩ := x
    cases failure with
    | none => exact (hissue.trans (kept_foldl_markLaunched s' ps)).trans (kept_note _ _)
    | some e => exact hissue.trans (kept_note s' _)

theorem kept_declineStale (stale : List OfferId) : Kept s (s.declineStale r stale) := by
  rw [declineStale]
  split
  · exact .refl s
  · exact (kept_note s _).trans (kept_order r _ _ _)

theorem kept_declineAll (stale : List OfferId) (batch : List Offer) :
    Kept { s with offers := [] } (s.declineAll r stale batch) :=
  (kept_note { s with offers := [] } _).trans ((kept_order r _ _ _).trans (kept_order r _ _ _))

theorem kept_assignQueued_hold (batch : List Offer) :
    Kept { s with offers := (s.hold batch).assignQueued.2.offers } (s.hold batch).assignQueued.2 :=
  ⟨rfl,rfl,rfl,rfl,rfl,.refl _⟩

theorem kept_handleOffers (batch : List Offer) :
    ∃ pool, Kept { s with offers := pool } (s.handleOffers r batch) := by
  rw [handleOffers]
  dsimp only
  generalize hreceived : s.note _ = received
  have hs : Kept s received := hreceived ▸ kept_note s _
  split
  · exact ⟨[],(hs.withOffers []).trans (kept_declineAll r received _ batch)⟩
  · have hdeclined := hs.trans (kept_declineStale r received (received.offers.stale batch))
    exact ⟨_,((hdeclined.withOffers _).trans (kept_assignQueued_hold _ batch)).trans
      (kept_acceptAll r _ _)⟩

/-- The retry policies in force after a failure: it is counted while a retry is left, and the
policy is forgotten otherwise. -/
def retriesAfterFailure (id : String) : RetryRegistry :=
  if s.mayRetry id then (s.counted id).retries else (s.counted id).retries.erase id

theorem kept_tryAgain (id : String) : Kept s (s.tryAgain r id) := by
  obtain ⟨e,he⟩ := s.tryAgain_eq id r
  rw [he]
  split
  · have hrequeued : Kept s { s.note e with tasks := s.tasks.modify id Task.requeued } :=
      ⟨rfl,rfl,rfl,rfl,rfl,s.tasks.keepsPolicies_modify id fun _ => rfl⟩
    exact hrequeued.trans (kept_order r _ _ _)
  · exact (kept_note s e).trans (kept_note _ _)

theorem kept_giveUp (id : String) :
    Kept { s with retries := s.retries.erase id } (s.giveUp id) :=
  kept_changeTasks _ id (f := Task.withState .failed) (fun _ => rfl) _

theorem kept_handleFailure (id : String) :
    Kept { s with retries := s.retriesAfterFailure id } (s.handleFailure r id) := by
  rw [handleFailure_eq,retriesAfterFailure]
  cases s.mayRetry id with
  | true => exact kept_tryAgain r (s.counted id) id
  | false => exact kept_giveUp (s.counted id) id

theorem kept_acknowledge (id : TaskId) (status : TaskStatus) :
    Kept s (s.acknowledge r id status) := by
  unfold acknowledge
  split
  · exact .refl s
  · exact kept_note s _
  · exact kept_order r s _ _

theorem kept_recorded (id : TaskId) (status : TaskStatus) : Kept s (s.recorded id status) :=
  kept_changeTasks s id.value (f := Task.reported status) (fun _ => rfl) _

theorem retriesAfterFailure_recorded (id : TaskId) (status : TaskStatus) :
    (s.recorded id status).retriesAfterFailure id.value = s.retriesAfterFailure id.value := by
  rw [retriesAfterFailure,retriesAfterFailure,mayRetry_recorded,counted,counted,policy_recorded,
    retries_recorded]

/-- The retry policies in force after a report. -/
def retriesAfterReport (status : TaskStatus) : RetryRegistry :=
  match status.taskId with
  | none => s.retries
  | some id =>
    if s.tasks.contains id.value ∧ TaskState.ofCode status.state = .failed then
      s.retriesAfterFailure id.value
    else s.retries

theorem kept_recordReport {id : TaskId} {status : TaskStatus} (hid : status.taskId = some id) :
    Kept { s with retries := s.retriesAfterReport status } (s.recordReport r id status) := by
  rw [recordReport,retriesAfterReport,hid]
  dsimp only
  cases hc : s.tasks.contains id.value with
  | false => simpa using kept_note s _
  | true =>
    by_cases hfailed : TaskState.ofCode status.state = .failed
    · have hrecorded := kept_recorded s id status
      have hfailure := kept_handleFailure r (s.recorded id status) id.value
      rw [retriesAfterFailure_recorded] at hfailure
      simpa [hfailed,recorded] using (hrecorded.withRetries _).trans hfailure
    · simpa [hfailed,recorded] using kept_recorded s id status

/-- A report changes nothing of this but the retries. -/
theorem kept_handleUpdate (status : TaskStatus) :
    Kept { s with retries := s.retriesAfterReport status } (s.handleUpdate r status) := by
  cases hid : status.taskId with
  | none =>
    rw [handleUpdate_of_no_id s hid,retriesAfterReport,hid]
    exact kept_note s _
  | some id =>
    obtain ⟨e,he⟩ := s.handleUpdate_of_id (r := r) hid
    rw [he]
    have hreport := kept_recordReport r (s.note e) hid
    exact ((kept_note s e).withRetries _).trans (hreport.trans (kept_acknowledge r _ id status))

/-- A confirmation changes nothing of this but the phase, the framework id and the store. -/
theorem kept_handleSubscribed (id : FrameworkId) (heartbeat : Option Duration)
    (master : Option MasterInfo) :
    ∃ store, Kept { s with phase := .running, frameworkId := some id, store := store }
      (s.handleSubscribed r id heartbeat master) := by
  obtain ⟨store,log,h⟩ := s.handleSubscribed_eq id heartbeat master r
  rw [h]
  exact ⟨store,rfl,rfl,rfl,rfl,rfl,TaskTable.keepsPolicies_foldl_erase _ _⟩

/-- What a batch makes the framework ask for. -/
def batchOrders (batch : List Offer) : List Issued :=
  let stale := Matching.replaced batch s.offers
  if s.tasks.hasQueued then
    let declined := if stale = [] then [] else [r.record s.issued (.order (.decline stale none))]
    let ps := (s.takeIn r batch).assignQueued.1
    declined ++
      if ps = [] then [] else [r.record (s.issued ++ declined) (.order (Placement.accept ps))]
  else
    let declined := r.record s.issued (.order (.decline (stale ++ batch.filterMap Offer.id) none))
    [declined,r.record (s.issued ++ [declined]) (.order .suppress)]

theorem mem_batchOrders {batch : List Offer} {i : Issued} (h : i ∈ s.batchOrders r batch) :
    (∃ ids, i.action = .order (.decline ids none)) ∨
      s.tasks.hasQueued = false ∧ i.action = .order .suppress ∨
      s.tasks.hasQueued ∧
        i.action = .order (Placement.accept (s.takeIn r batch).assignQueued.1) := by
  rw [batchOrders] at h
  dsimp only at h
  split at h
  · rename_i hqueued
    rcases List.mem_append.mp h with h | h
    · split at h
      · cases h
      · exact .inl ⟨_,congrArg Issued.action (List.mem_singleton.mp h)⟩
    · split at h
      · cases h
      · exact .inr (.inr ⟨hqueued,congrArg Issued.action (List.mem_singleton.mp h)⟩)
  · rename_i hqueued
    rcases List.mem_pair.mp h with h | h
    · exact .inl ⟨_,congrArg Issued.action h⟩
    · exact .inr (.inl ⟨Bool.eq_false_iff.mpr hqueued,congrArg Issued.action h⟩)

theorem handleOffers_eq_handle {s : Session} (hphase : s.phase = .running) (batch : List Offer) :
    s.handleOffers r batch = (s.handle r (.offers batch)).2 := by
  rw [handle_of_running hphase]
  rfl

theorem issued_handleOffers {s : Session} (hphase : s.phase = .running) (batch : List Offer) :
    (s.handleOffers r batch).issued = s.issued ++ s.batchOrders r batch := by
  rw [handleOffers_eq_handle r hphase,batchOrders]
  cases hqueued : s.tasks.hasQueued with
  | false =>
    rw [handle_offers_eq_declineAll r batch hphase hqueued,issued_declineAll]
    rfl
  | true =>
    rw [handle_offers_eq_acceptAll r batch hphase hqueued,issued_acceptAll,issued_assignQueued,
      issued_takeIn,List.append_assoc]
    rfl

/-- What a report makes the framework ask for. -/
def reportOrders (status : TaskStatus) : List Issued :=
  match status.taskId with
  | none => []
  | some id =>
    let revived :=
      if s.tasks.contains id.value ∧ TaskState.ofCode status.state = .failed ∧
        s.mayRetry id.value
      then [r.record s.issued (.order .revive)] else []
    revived ++
      match status.uuid,status.agentId with
      | some uuid,some agent =>
        [r.record (s.issued ++ revived) (.order (.acknowledge agent id uuid))]
      | _,_ => []

theorem mem_reportOrders {status : TaskStatus} {i : Issued} (h : i ∈ s.reportOrders r status) :
    i.action = .order .revive ∨
      ∃ agent task uuid, i.action = .order (.acknowledge agent task uuid) := by
  rw [reportOrders] at h
  split at h
  · cases h
  · rcases List.mem_append.mp h with h | h
    · split at h
      · exact .inl (congrArg Issued.action (List.mem_singleton.mp h))
      · cases h
    · split at h
      · exact .inr ⟨_,_,_,congrArg Issued.action (List.mem_singleton.mp h)⟩
      · cases h

theorem issued_handleUpdate_eq (status : TaskStatus) :
    (s.handleUpdate r status).issued = s.issued ++ s.reportOrders r status := by
  rw [reportOrders]
  cases hid : status.taskId with
  | none =>
    rw [handleUpdate_of_no_id s hid]
    exact (List.append_nil _).symm
  | some id =>
    rw [s.issued_handleUpdate hid]
    exact List.append_assoc ..

/-- Notices that are logged, whatever the phase, and change nothing. -/
def isObserved : Notice → Bool
  | .inverseOffers _ | .rescindInverseOffer _ | .message _ | .failure _ | .heartbeat
  | .unknown _ => true
  | _ => false

/-- Everything that a step can do: the session afterwards, and what was issued. -/
inductive Stepped : Step → Session → List Issued → Prop
  | remark (e : Log.Entry) : Stepped (.remark e) (s.note e) []
  | subscribe : Stepped .subscribe
      { { s with phase := .init }.perform r .subscribe with phase := .awaitingId }
      [⟨.subscribe,false⟩]
  | stop : Stepped .stop { s with phase := .init, cancelled := true } []
  | ignored (n : Notice) (e : Log.Entry) (hphase : s.phase ≠ .running) (hn : isEarly n = false) :
      Stepped (.notice n) (s.note e) []
  | observed (n : Notice) (e : List Log.Entry) (hn : isObserved n) :
      Stepped (.notice n) (s.noteAll e) []
  | confirmed (id : FrameworkId) (heartbeat : Option Duration) (master : Option MasterInfo) :
      Stepped (.notice (.subscribed id heartbeat master))
        (s.handleSubscribed r id heartbeat master) [⟨.setFrameworkId id,false⟩]
  | batch (offers : List Offer) (hphase : s.phase = .running) :
      Stepped (.notice (.offers offers)) (s.handleOffers r offers) (s.batchOrders r offers)
  | rescinded (id : OfferId) (hphase : s.phase = .running) :
      Stepped (.notice (.rescind id)) (s.handleRescind id) []
  | reported (status : TaskStatus) (hphase : s.phase = .running) :
      Stepped (.notice (.update status)) (s.handleUpdate r status) (s.reportOrders r status)
  | failed (text : String) (e : Log.Entry) (hphase : s.phase = .running) :
      Stepped (.notice (.error text)) { s.note e with phase := .init } []

section

variable {r s}

theorem Stepped.issued_eq {x : Step} {s' : Session} {new : List Issued}
    (h : Stepped r s x s' new) : s'.issued = s.issued ++ new := by
  cases h with
  | subscribe => rfl
  | confirmed id heartbeat master => exact issued_handleSubscribed s id heartbeat master
  | batch offers hphase => exact issued_handleOffers r hphase offers
  | reported status => exact issued_handleUpdate_eq r s status
  | _ => exact (List.append_nil _).symm

/-- In no step a task gets another policy. -/
theorem Stepped.keepsPolicies {x : Step} {s' : Session} {new : List Issued}
    (h : Stepped r s x s' new) : s.tasks.KeepsPolicies s'.tasks := by
  cases h with
  | subscribe => exact (kept_perform r { s with phase := .init } .subscribe).policies
  | confirmed id heartbeat master =>
    obtain ⟨store,hkept⟩ := kept_handleSubscribed r s id heartbeat master
    exact hkept.policies
  | batch offers hphase =>
    obtain ⟨pool,hkept⟩ := kept_handleOffers r s offers
    exact hkept.policies
  | reported status hphase => exact (kept_handleUpdate r s status).policies
  | _ => exact .refl _

/-- Only a report changes the retry policies in force. -/
theorem Stepped.retries_eq {x : Step} {s' : Session} {new : List Issued}
    (h : Stepped r s x s' new) : s'.retries = s.retries ∨
      s.phase = .running ∧ ∃ status, x = .notice (.update status) ∧
        s'.retries = s.retriesAfterReport status := by
  cases h with
  | confirmed id heartbeat master =>
    obtain ⟨store,hkept⟩ := kept_handleSubscribed r s id heartbeat master
    exact .inl hkept.retries
  | batch offers hphase =>
    obtain ⟨pool,hkept⟩ := kept_handleOffers r s offers
    exact .inl hkept.retries
  | reported status hphase =>
    exact .inr ⟨hphase,status,rfl,(kept_handleUpdate r s status).retries⟩
  | _ => exact .inl rfl

end

theorem exists_stepped (x : Step) : ∃ new, Stepped r s x (s.step r x) new := by
  cases x with
  | remark e => exact ⟨_,.remark e⟩
  | subscribe => exact ⟨_,.subscribe⟩
  | stop => exact ⟨_,.stop⟩
  | notice n =>
    rw [step]
    by_cases hcounts : s.phase = .running ∨ isEarly n
    · rw [hcounts.elim (handle_of_running · n) handle_of_early]
      cases n with
      | subscribed id heartbeat master => exact ⟨_,.confirmed id heartbeat master⟩
      | offers batch => exact ⟨_,.batch batch (hcounts.resolve_right nofun)⟩
      | rescind id => exact ⟨_,.rescinded id (hcounts.resolve_right nofun)⟩
      | update status => exact ⟨_,.reported status (hcounts.resolve_right nofun)⟩
      | error text => exact ⟨_,.failed text _ (hcounts.resolve_right nofun)⟩
      | _ => exact ⟨_,.observed _ _ rfl⟩
    · obtain ⟨hphase,hearly⟩ := not_or.mp hcounts
      have hn := Bool.eq_false_iff.mpr hearly
      obtain ⟨e,he⟩ := handle_of_ignored (r := r) hphase hn
      rw [he]
      exact ⟨_,.ignored n e hphase hn⟩

theorem stepped (s : Session) (x : Step) : Stepped r s x (s.step r x) (s.newlyIssued r x) := by
  obtain ⟨new,h⟩ := exists_stepped r s x
  rw [newlyIssued_eq h.issued_eq]
  exact h

theorem issued_step (s : Session) (x : Step) :
    (s.step r x).issued = s.issued ++ s.newlyIssued r x := (stepped r s x).issued_eq

theorem issued_play (s : Session) (xs : List Step) :
    ∃ new, (s.play r xs).issued = s.issued ++ new := by
  induction xs generalizing s with
  | nil => exact ⟨[],(List.append_nil _).symm⟩
  | cons x xs ih =>
    obtain ⟨new,hnew⟩ := ih (s.step r x)
    rw [issued_step,List.append_assoc] at hnew
    exact ⟨_,hnew⟩

/-- Whatever is issued over many steps is issued in one of them. -/
theorem exists_issued_in {s : Session} {xs : List Step} {earlier later : List Issued} {i : Issued}
    (h : (s.play r xs).issued = s.issued ++ earlier ++ i :: later) :
    ∃ ys x zs before after, xs = ys ++ x :: zs ∧
      (s.play r ys).newlyIssued r x = before ++ i :: after ∧
      (s.play r ys).issued ++ before = s.issued ++ earlier := by
  induction xs generalizing s earlier with
  | nil => simp at h
  | cons x xs ih =>
    have hafter : ∀ mid, earlier = s.newlyIssued r x ++ mid →
        ∃ ys y zs before after, x :: xs = ys ++ y :: zs ∧
          (s.play r ys).newlyIssued r y = before ++ i :: after ∧
          (s.play r ys).issued ++ before = s.issued ++ earlier := fun mid hmid => by
      rw [hmid,← List.append_assoc,← issued_step] at h
      obtain ⟨ys,y,zs,before,after,rfl,hnew,hbefore⟩ := ih h
      rw [issued_step,List.append_assoc,← hmid] at hbefore
      exact ⟨x :: ys,y,zs,before,after,rfl,hnew,hbefore⟩
    obtain ⟨rest,hrest⟩ := issued_play r (s.step r x) xs
    rw [play_cons,hrest,issued_step,List.append_assoc,List.append_assoc] at h
    rcases List.append_eq_append_iff.mp (List.append_cancel_left h) with
      ⟨mid,hmid,_⟩ | ⟨mid,hmid,hi⟩
    · exact hafter mid hmid
    · cases mid with
      | nil => exact hafter [] (by simpa using hmid.symm)
      | cons j mid =>
        cases hi
        exact ⟨[],x,xs,earlier,mid,rfl,hmid,rfl⟩

end Session
end ClusterFramework
