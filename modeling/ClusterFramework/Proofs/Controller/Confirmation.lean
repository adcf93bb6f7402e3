import ClusterFramework.Proofs.Controller.Steps
import Mathlib.Data.List.Induction

/-! Orders belong to a confirmed subscription. While the phase is running, the framework id
that the scheduler was told last is the one that the subscription's latest confirmation
carried; in the other phases a notice that does not confirm anything is ignored. -/
namespace ClusterFramework

namespace Step

def confirms? : Step → Option FrameworkId
  | .notice (.subscribed id _ _) => some id
  | _ => none

/-- The id confirmed last since the latest subscription began. -/
def confirmedId? (xs : List Step) : Option FrameworkId :=
  (xs.reverse.takeWhile fun x => x ≠ .subscribe).findSome? confirms?

theorem confirmedId?_concat (xs : List Step) {x : Step} (hx : x ≠ .subscribe) :
    confirmedId? (xs ++ [x]) = x.confirms?.or (confirmedId? xs) := by
  rw [confirmedId?,List.reverse_concat,List.takeWhile_cons_of_pos (by simpa using hx),
    List.findSome?_cons]
  cases x.confirms? <;> rfl

/-- No notice comes before the next subscription begins. -/
def Silent (xs : List Step) : Prop := ∀ n, .notice n ∉ xs.takeWhile fun x => x ≠ .subscribe

theorem Silent.subscribe_mem {ys zs : List Step} {n : Notice}
    (h : Silent (ys ++ .notice n :: zs)) : .subscribe ∈ ys := by
  by_contra hys
  have hall : ∀ y ∈ ys, decide (y ≠ .subscribe) := fun y hy =>
    decide_eq_true fun he => hys (he ▸ hy)
  refine h n ?_
  rw [List.takeWhile_append_of_pos hall]
  exact List.mem_append_right _ List.mem_cons_self

end Step

namespace Issued

def isOrder (i : Issued) : Bool :=
  match i.action with
  | .order _ => true
  | _ => false

def setId? (i : Issued) : Option FrameworkId :=
  match i.action with
  | .setFrameworkId id => some id
  | _ => none

def toldId? (is : List Issued) : Option FrameworkId := is.reverse.findSome? setId?

theorem toldId?_append {is new : List Issued} (h : ∀ i ∈ new, i.setId? = none) :
    toldId? (is ++ new) = toldId? is := by
  have hnew : new.reverse.findSome? setId? = none :=
    List.findSome?_eq_none_iff.mpr fun i hi => h i (List.mem_reverse.mp hi)
  rw [toldId?,List.reverse_append,List.findSome?_append,hnew]
  rfl

theorem toldId?_append_orders {is new : List Issued} (h : ∀ i ∈ new, i.isOrder) :
    toldId? (is ++ new) = toldId? is :=
  toldId?_append fun i hi => by
    have horder := h i hi
    rw [isOrder] at horder
    rw [setId?]
    split
    · rename_i ha
      rw [ha] at horder
      cases horder
    · rfl

end Issued

namespace Session

open Step Issued

variable {r : Respondent} {s s' : Session} {x : Step} {new : List Issued}

theorem isOrder_of_mem_batchOrders {batch : List Offer} {i : Issued}
    (hi : i ∈ s.batchOrders r batch) : i.isOrder := by
  rw [isOrder]
  rcases mem_batchOrders r s hi with ⟨_,ha⟩ | ⟨_,ha⟩ | ⟨_,ha⟩ <;> rw [ha]

theorem isOrder_of_mem_reportOrders {status : TaskStatus} {i : Issued}
    (hi : i ∈ s.reportOrders r status) : i.isOrder := by
  rw [isOrder]
  rcases mem_reportOrders r s hi with ha | ⟨_,_,_,ha⟩ <;> rw [ha]

/-- Orders are given for a notice, while the phase is running, and with nothing else. -/
theorem Stepped.orders (h : Stepped r s x s' new) (hnew : ∃ i ∈ new, i.isOrder) :
    s.phase = .running ∧ (∃ n, x = .notice n) ∧ s'.frameworkId = s.frameworkId ∧
      ∀ i ∈ new, i.isOrder := by
  obtain ⟨i,hi,horder⟩ := hnew
  cases h with
  | subscribe =>
    rw [List.mem_singleton.mp hi] at horder
    cases horder
  | confirmed id heartbeat master =>
    rw [List.mem_singleton.mp hi] at horder
    cases horder
  | batch offers hphase =>
    obtain ⟨pool,hkept⟩ := kept_handleOffers r s offers
    exact ⟨hphase,⟨_,rfl⟩,hkept.frameworkId,fun _ => isOrder_of_mem_batchOrders⟩
  | reported status hphase =>
    exact ⟨hphase,⟨_,rfl⟩,(kept_handleUpdate r s status).frameworkId,
      fun _ => isOrder_of_mem_reportOrders⟩
  | _ => cases hi

/-- The phase is running after a step that confirms an id, which the scheduler is then told,
and where it was running before; no other step changes the id. -/
theorem Stepped.of_running (h : Stepped r s x s' new) (hphase : s'.phase = .running) :
    x ≠ .subscribe ∧
      ((∃ id, x.confirms? = some id ∧ s'.frameworkId = some id ∧
          toldId? s'.issued = some id) ∨
        x.confirms? = none ∧ s.phase = .running ∧ s'.frameworkId = s.frameworkId ∧
          toldId? s'.issued = toldId? s.issued) := by
  have hissued := h.issued_eq
  cases h with
  | remark e => exact ⟨nofun,.inr ⟨rfl,hphase,rfl,rfl⟩⟩
  | subscribe => cases hphase
  | stop => cases hphase
  | ignored n e hphase' hn => exact absurd hphase hphase'
  | observed n es hn =>
    refine ⟨nofun,.inr ⟨?_,hphase,rfl,rfl⟩⟩
    cases n with
    | subscribed id heartbeat master => cases hn
    | _ => rfl
  | confirmed id heartbeat master =>
    obtain ⟨store,hkept⟩ := kept_handleSubscribed r s id heartbeat master
    refine ⟨nofun,.inl ⟨id,rfl,hkept.frameworkId,?_⟩⟩
    rw [hissued,toldId?,List.reverse_concat]
    rfl
  | batch offers hphase' =>
    obtain ⟨pool,hkept⟩ := kept_handleOffers r s offers
    refine ⟨nofun,.inr ⟨rfl,hphase',hkept.frameworkId,?_⟩⟩
    rw [hissued]
    exact toldId?_append_orders fun _ => isOrder_of_mem_batchOrders
  | rescinded id hphase' => exact ⟨nofun,.inr ⟨rfl,hphase',rfl,rfl⟩⟩
  | reported status hphase' =>
    refine ⟨nofun,.inr ⟨rfl,hphase',(kept_handleUpdate r s status).frameworkId,?_⟩⟩
    rw [hissued]
    exact toldId?_append_orders fun _ => isOrder_of_mem_reportOrders
  | failed text e hphase' => cases hphase

/-- Once a subscription began, the phase is running only if that subscription was confirmed,
and then with the id that was confirmed last. -/
theorem confirmed_of_running (r : Respondent) (s₀ : Session) {xs : List Step}
    (hxs : .subscribe ∈ xs) (hphase : (s₀.play r xs).phase = .running) :
    ∃ id, confirmedId? xs = some id ∧ (s₀.play r xs).frameworkId = some id ∧
      toldId? (s₀.play r xs).issued = some id := by
  induction xs using List.reverseRecOn with
  | nil => cases hxs
  | append_singleton xs x ih =>
    rw [play_append,play_cons,play_nil] at hphase ⊢
    obtain ⟨hx,hconfirms⟩ := (stepped r (s₀.play r xs) x).of_running hphase
    rw [confirmedId?_concat xs hx]
    rcases hconfirms with ⟨id,hid,hframework,htold⟩ | ⟨hid,hbefore,hframework,htold⟩
    · exact ⟨id,by rw [hid]; rfl,hframework,htold⟩
    · have hmem : .subscribe ∈ xs :=
        (List.mem_append.mp hxs).resolve_right fun h => hx (List.mem_singleton.mp h).symm
      obtain ⟨id,hconfirmed,hframework',htold'⟩ := ih hmem hbefore
      exact ⟨id,by rw [hid,Option.none_or,hconfirmed],hframework.trans hframework',
        htold.trans htold'⟩

/-- After an error in the running phase no notice comes before the next subscription. -/
def Orderly (r : Respondent) : List Step → Session → Prop
  | [], _ => True
  | x :: xs, s =>
    (s.phase = .running → (∃ text, x = .notice (.error text)) → Silent xs) ∧
      Orderly r xs (s.step r x)

theorem Orderly.cons_of_ne {xs : List Step} (hx : ∀ text, x ≠ .notice (.error text))
    (h : Orderly r xs (s.step r x)) : Orderly r (x :: xs) s :=
  ⟨fun _ herror => herror.elim fun text htext => absurd htext (hx text),h⟩

theorem Orderly.silent {ys zs : List Step} {text : String}
    (h : Orderly r (ys ++ .notice (.error text) :: zs) s)
    (hphase : (s.play r ys).phase = .running) : Silent zs := by
  induction ys generalizing s with
  | nil => exact h.1 hphase ⟨text,rfl⟩
  | cons y ys ih => exact ih h.2 hphase

theorem orderly_consumeSteps (ns : List Notice) (s : Session) {rest : List Step}
    (hsilent : Silent rest) (h : Orderly r rest (s.consume r ns)) :
    Orderly r (consumeSteps r ns s ++ rest) s := by
  induction ns generalizing s with
  | nil =>
    rw [consume] at h
    rw [consumeSteps]
    split at h <;> rename_i hcancelled
    · rw [if_pos hcancelled]
      exact h
    · rw [if_neg hcancelled]
      exact .cons_of_ne (fun _ h => by cases h) h
  | cons n ns ih =>
    rw [consume] at h
    rw [consumeSteps]
    split at h <;> rename_i hcancelled
    · rw [if_pos hcancelled]
      exact h
    · rw [if_neg hcancelled]
      cases hhandle : s.handle r n with
      | mk flow s' =>
        have hstep : s.step r (.notice n) = s' := congrArg Prod.snd hhandle
        rw [hhandle] at h
        cases flow with
        | reconnect =>
          refine ⟨fun _ _ => hsilent,?_⟩
          rw [hstep]
          exact h
        | proceed =>
          refine ⟨fun hphase herror => ?_,?_⟩
          · obtain ⟨text,htext⟩ := herror
            cases htext
            rw [handle_of_running hphase] at hhandle
            cases hhandle
          · rw [hstep]
            exact ih s' h

theorem silent_followSteps (subscriptions : List (List Notice)) (s : Session) (e : Log.Entry) :
    Silent (followSteps r subscriptions s ++ [.remark e]) := by
  cases subscriptions with
  | nil =>
    rw [followSteps]
    split <;> simp [Silent]
  | cons ns rest =>
    rw [followSteps]
    split <;> simp [Silent]

theorem orderly_followSteps (subscriptions : List (List Notice)) (s : Session)
    (e : Log.Entry) : Orderly r (followSteps r subscriptions s ++ [.remark e]) s := by
  induction subscriptions generalizing s with
  | nil =>
    rw [followSteps]
    split <;> simp [Orderly]
  | cons ns rest ih =>
    rw [followSteps]
    split
    · simp [Orderly]
    · dsimp only
      rw [List.cons_append,List.append_assoc]
      exact .cons_of_ne (fun _ h => by cases h)
        (orderly_consumeSteps ns _ (silent_followSteps rest _ e) (ih _))

variable (r) (subscriptions : List (List Notice)) (s₀ : Session)

theorem silent_runSteps : Silent (runSteps r subscriptions s₀) := by
  intro n hn
  rw [runSteps,List.cons_append,List.takeWhile_cons_of_pos rfl] at hn
  rcases List.mem_cons.mp hn with hn | hn
  · cases hn
  · exact silent_followSteps subscriptions _ _ n hn

theorem subscribe_mem_of_notice {ys zs : List Step} {n : Notice}
    (h : runSteps r subscriptions s₀ = ys ++ .notice n :: zs) : .subscribe ∈ ys :=
  Silent.subscribe_mem (h ▸ silent_runSteps r subscriptions s₀)

theorem orderly_runSteps : Orderly r (runSteps r subscriptions s₀) s₀ :=
  .cons_of_ne (fun _ h => by cases h) (orderly_followSteps subscriptions _ _)

/-- Over every run each order is given while a notice of a confirmed subscription is handled,
and the scheduler has been told the id that the subscription's latest confirmation carried.
Until then a notice, confirmations and heartbeats apart, changes nothing but the log. An error
in the running phase is the last notice of its subscription. -/
theorem orders_of_run (r : Respondent) (subscriptions : List (List Notice)) (s₀ : Session) :
    let steps := runSteps r subscriptions s₀
    s₀.run r subscriptions = s₀.play r steps ∧
      (∀ earlier i later,
        (s₀.run r subscriptions).issued = s₀.issued ++ earlier ++ i :: later → i.isOrder →
          ∃ ys n zs before after id, steps = ys ++ .notice n :: zs ∧
            (s₀.play r ys).newlyIssued r (.notice n) = before ++ i :: after ∧
            (s₀.play r ys).issued ++ before = s₀.issued ++ earlier ∧
            confirmedId? ys = some id ∧ (s₀.play r ys).frameworkId = some id ∧
            ((s₀.play r ys).step r (.notice n)).frameworkId = some id ∧
            toldId? (s₀.issued ++ earlier) = some id) ∧
      (∀ ys n zs, steps = ys ++ .notice n :: zs → isEarly n = false → confirmedId? ys = none →
        ∃ e, (s₀.play r ys).step r (.notice n) = (s₀.play r ys).note e) ∧
      ∀ ys text zs, steps = ys ++ .notice (.error text) :: zs →
        (s₀.play r ys).phase = .running → Silent zs := by
  intro steps
  refine ⟨run_eq_play r subscriptions s₀,fun earlier i later hissued horder => ?_,
    fun ys n zs hsteps hn hconfirmed => ?_,fun ys text zs hsteps hphase => ?_⟩
  · rw [run_eq_play] at hissued
    obtain ⟨ys,x,zs,before,after,hsteps,hnew,hbefore⟩ := exists_issued_in r hissued
    have hi : i ∈ (s₀.play r ys).newlyIssued r x :=
      hnew ▸ List.mem_append_right _ List.mem_cons_self
    obtain ⟨hphase,⟨n,rfl⟩,hframework',horders⟩ := (stepped r (s₀.play r ys) x).orders ⟨i,hi,horder⟩
    have hys := subscribe_mem_of_notice r subscriptions s₀ hsteps
    obtain ⟨id,hconfirmed,hframework,htold⟩ := confirmed_of_running r s₀ hys hphase
    refine ⟨ys,n,zs,before,after,id,hsteps,hnew,hbefore,hconfirmed,hframework,
      hframework'.trans hframework,?_⟩
    rw [← hbefore,toldId?_append_orders,htold]
    exact fun j hj => horders j (hnew ▸ List.mem_append_left _ hj)
  · have hys := subscribe_mem_of_notice r subscriptions s₀ hsteps
    have hphase : (s₀.play r ys).phase ≠ .running := fun hphase => by
      obtain ⟨id,hid,_⟩ := confirmed_of_running r s₀ hys hphase
      rw [hconfirmed] at hid
      cases hid
    obtain ⟨e,he⟩ := handle_of_ignored (r := r) hphase hn
    exact ⟨e,congrArg Prod.snd he⟩
  · have horderly : Orderly r steps s₀ := orderly_runSteps r subscriptions s₀
    exact Orderly.silent (hsteps ▸ horderly) hphase

def markedReport : Notice :=
  .update { taskId := some ⟨"a"⟩, state := 1, agentId := some ⟨"x"⟩, uuid := some [1] }

/-- The first subscription ends with an error; its last notice is not handled any more. -/
def twoSubscriptions : List (List Notice) :=
  [[markedReport,.subscribed ⟨"first"⟩ none none,.error "lost",markedReport],
   [.subscribed ⟨"second"⟩ none none,markedReport]]

def acknowledgement : Issued := ⟨.order (.acknowledge ⟨"x"⟩ ⟨"a"⟩ [1]),false⟩

theorem orders_of_twoSubscriptions :
    let r : Respondent := fun _ _ => {}
    let s₀ : Session := { tasks := Dictionary.insert .empty "a" (oneCpuTask "a") }
    (s₀.run r twoSubscriptions).issued.filter Issued.isOrder = [acknowledgement] ∧
      ∃ ys n zs, runSteps r twoSubscriptions s₀ = ys ++ .notice n :: zs ∧
        acknowledgement ∈ (s₀.play r ys).newlyIssued r (.notice n) ∧
        confirmedId? ys = some ⟨"second"⟩ := by
  intro r s₀
  obtain ⟨_,horders,_⟩ := orders_of_run r twoSubscriptions s₀
  have hissued : (s₀.run r twoSubscriptions).issued = s₀.issued ++
      [⟨.subscribe,false⟩,⟨.setFrameworkId ⟨"first"⟩,false⟩,
        ⟨.subscribe,false⟩,⟨.setFrameworkId ⟨"second"⟩,false⟩] ++
      acknowledgement :: [⟨.subscribe,false⟩] := by decide +kernel
  obtain ⟨ys,n,zs,before,after,id,hsteps,hnew,_,hconfirmed,_,_,htold⟩ := horders _ _ _ hissued rfl
  have hid : id = ⟨"second"⟩ := (Option.some.inj htold).symm
  refine ⟨by rw [hissued]; rfl,ys,n,zs,hsteps,?_,hid ▸ hconfirmed⟩
  rw [hnew]
  exact List.mem_append_right _ List.mem_cons_self

end Session
end ClusterFramework
