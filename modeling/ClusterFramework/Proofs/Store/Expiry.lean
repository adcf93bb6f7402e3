import ClusterFramework.Proofs.Store.Reference
import ClusterFramework.Proofs.Store.Scan
import Mathlib.Logic.Function.Iterate

/-! A store that drops what has run out only when it is asked something answers as one that
drops it at once: at every reading of the clock both show the same keys, values and leases. -/
namespace ClusterFramework
namespace LeaseStore

def replied {α : Type} (f : α → StoreReply) (a : Answer α) :
    Except StoreError StoreReply × LeaseStore := (a.1.map f,a.2)

def perform (s : LeaseStore) (now : Instant) :
    StoreAction → Except StoreError StoreReply × LeaseStore
  | .create key value => replied (fun _ => .done) (s.create now key value)
  | .createWithLease key value ttl => replied .lease (s.createWithLease now key value ttl)
  | .read key => replied .value (s.read now key)
  | .readAll start => replied .listing (s.readAll now start)
  | .update key value => replied (fun _ => .done) (s.update now key value)
  | .refresh id => replied (fun _ => .done) (s.refresh now id)
  | .delete key => replied (fun _ => .done) (s.delete now key)
  | .size => (.ok (.count (s.size now)),s.expire now)

/-- The replies to actions at the readings of a clock. -/
def replies (s : LeaseStore) : List (Instant × StoreAction) → List (Except StoreError StoreReply)
  | [] => []
  | (now,x) :: xs => (s.perform now x).1 :: (s.perform now x).2.replies xs

def after (s : LeaseStore) : List (Instant × StoreAction) → LeaseStore
  | [] => s
  | (now,x) :: xs => (s.perform now x).2.after xs

end LeaseStore

namespace EagerStore

variable {e : EagerStore} {x : StoreAction} {t : Instant}

def replies (e : EagerStore) : List (Instant × StoreAction) → List (Except StoreError StoreReply)
  | [] => []
  | (now,x) :: xs =>
    ((e.waitUntil now).perform x).1 :: ((e.waitUntil now).perform x).2.replies xs

def after (e : EagerStore) : List (Instant × StoreAction) → EagerStore
  | [] => e
  | (now,x) :: xs => ((e.waitUntil now).perform x).2.after xs

theorem now_of_answer {e' : EagerStore} {r : StoreReply} (hx : e.answer x = .ok (r,e')) :
    e'.now = e.now := by
  cases x with
  | readAll | size => cases hx; rfl
  | _ =>
    simp only [answer] at hx
    split at hx
    all_goals cases hx
    rfl

theorem now_perform (e : EagerStore) (x : StoreAction) : (e.perform x).2.now = e.now := by
  unfold perform
  split
  · rename_i e' hx
    have hnow := now_of_answer hx
    exact hnow
  · rfl

theorem now_iterate_tick (e : EagerStore) (n : Nat) : (tick^[n] e).now = e.now+n := by
  induction n generalizing e with
  | zero => simp
  | succ n ih =>
    rw [Function.iterate_succ_apply,ih,Int.natCast_succ,Int.add_comm n]
    exact Int.add_assoc ..

theorem now_waitUntil (ht : e.now ≤ t) : (e.waitUntil t).now = t := by
  rw [waitUntil,now_iterate_tick,Int.toNat_of_nonneg (Int.sub_nonneg_of_le ht)]
  exact (Int.add_comm ..).trans (Int.sub_add_cancel ..)

theorem deadline_eq (e : EagerStore) (ttl : Duration) :
    e.deadline ttl = LeaseStore.expiry e.now ttl := by
  rw [deadline,LeaseStore.expiry,Int.min_def]

end EagerStore

namespace LeaseStore

variable {s : LeaseStore} {e : EagerStore} {x : StoreAction}

/-- Nothing that has run out is left in the store, and it shows what the reference holds. -/
structure Reflects (s : LeaseStore) (e : EagerStore) : Prop where
  linked : s.Linked
  view : s.view = e.entries
  counted : s.lastLease = e.issued.length

/-- The store does what the reference does, or both refuse. -/
def Answers (s : LeaseStore) (e : EagerStore) (x : StoreAction) : Prop :=
  (∃ err, e.answer x = .error err ∧ s.perform e.now x = (.error err,s.expire e.now)) ∨
  ∃ reply e' s', e.answer x = .ok (reply,e') ∧ s.perform e.now x = (.ok reply,s') ∧ s'.Reflects e'

theorem answers_error {α : Type} {f : LeaseStore → Except StoreError (α × LeaseStore)}
    {g : α → StoreReply} {err : StoreError} (hx : s.perform e.now x = replied g (s.act e.now f))
    (he : e.answer x = .error err) (hs : f (s.expire e.now) = .error err) : s.Answers e x :=
  .inl ⟨err,he,by rw [hx,act,hs]; rfl⟩

theorem answers_ok {α : Type} {f : LeaseStore → Except StoreError (α × LeaseStore)}
    {g : α → StoreReply} {a : α} {e' : EagerStore} {s' : LeaseStore}
    (hx : s.perform e.now x = replied g (s.act e.now f)) (he : e.answer x = .ok (g a,e'))
    (hs : f (s.expire e.now) = .ok (a,s')) (hsame : s'.Reflects e') : s.Answers e x :=
  .inr ⟨g a,e',s',he,by rw [hx,act,hs]; rfl,hsame⟩

namespace Reflects

theorem get?_entries (h : s.Reflects e) (key : String) :
    e.entries.get? key = (s.entries.get? key).map s.holding := by
  rw [← h.view,get?_view]

theorem contains_entries (h : s.Reflects e) (key : String) :
    e.entries.contains key = s.entries.contains key := by
  rw [← h.view,contains_view]

theorem answers_create (h : (s.expire e.now).Reflects e) (key : String) (value : Octets) :
    s.Answers e (.create key value) := by
  have hsame := h.contains_entries key
  by_cases hkey : e.entries.contains key
  · exact answers_error rfl (if_pos hkey) (if_pos (hsame ▸ hkey))
  · have hkey' : ¬(s.expire e.now).entries.contains key := hsame ▸ hkey
    refine answers_ok rfl (if_neg hkey) (if_neg hkey') ⟨?_,?_,h.counted⟩
    · exact h.linked.create (Bool.eq_false_iff.mpr hkey') value
    · rw [view_create,h.view]

theorem answers_createWithLease (h : (s.expire e.now).Reflects e) (key : String) (value : Octets)
    (ttl : Duration) : s.Answers e (.createWithLease key value ttl) := by
  have hsame := h.contains_entries key
  by_cases hkey : e.entries.contains key
  · exact answers_error rfl (if_pos hkey) (if_pos (hsame ▸ hkey))
  · have hkey' : ¬(s.expire e.now).entries.contains key := hsame ▸ hkey
    have hid : (e.issued.length : Int)+1 = (s.expire e.now).lastLease+1 := by rw [h.counted]
    have hok : e.answer (.createWithLease key value ttl) =
        .ok (.lease ((s.expire e.now).lastLease+1),
          { e with
            entries := e.entries.insert key
              ⟨value,some ⟨(s.expire e.now).lastLease+1,ttl,expiry e.now ttl⟩⟩
            issued := e.issued ++ [(s.expire e.now).lastLease+1] }) := by
      rw [← hid,← EagerStore.deadline_eq]
      exact if_neg hkey
    refine answers_ok rfl hok (if_neg hkey') ⟨?_,?_,?_⟩
    · exact h.linked.createWithLease (Bool.eq_false_iff.mpr hkey') value ttl _
    · rw [h.linked.view_createWithLease,h.view]
    · simp [h.counted]

theorem answers_read (h : (s.expire e.now).Reflects e) (key : String) :
    s.Answers e (.read key) := by
  have hsame := h.get?_entries key
  cases hkey : (s.expire e.now).entries.get? key with
  | none =>
    rw [hkey] at hsame
    exact answers_error rfl (by rw [EagerStore.answer,hsame,Option.map_none]) (by rw [hkey])
  | some v =>
    rw [hkey] at hsame
    refine answers_ok (a := v.value) rfl ?_ ?_ h
    · simp [EagerStore.answer,hsame,holding]
    · simp [hkey]

theorem answers_readAll (h : (s.expire e.now).Reflects e) (start : String) :
    s.Answers e (.readAll start) := by
  refine answers_ok rfl ?_ rfl h
  have hentries : e.entries.entries =
      (s.expire e.now).entries.entries.map fun f => (f.1,(s.expire e.now).holding f.2) := by
    rw [← h.view]
    rfl
  rw [EagerStore.answer,scan_eq_filter]
  simp [Dictionary.filter,Dictionary.map,hentries,List.filter_map,Function.comp_def,holding]

theorem answers_update (h : (s.expire e.now).Reflects e) (key : String) (value : Octets) :
    s.Answers e (.update key value) := by
  have hsame := h.contains_entries key
  by_cases hkey : e.entries.contains key
  · refine answers_ok rfl (if_pos hkey) (if_pos (hsame ▸ hkey)) ⟨?_,?_,h.counted⟩
    · exact h.linked.update key value
    · rw [view_update,h.view]
  · exact answers_error rfl (if_neg hkey) (if_neg (hsame ▸ hkey))

theorem valid_iff (h : s.Reflects e) (hacc : e.Accounted) (id : Int) :
    e.Valid id ↔ s.leases.any fun l => l.id = id := by
  rw [← hacc.held.held_iff]
  have hheld : id ∈ s.leaseIds ↔ ∃ key, e.leaseAt? key = some id := by
    rw [h.linked.mem_leaseIds_iff,h.view]
    rfl
  rw [← hheld]
  simp [leaseIds]

theorem answers_refresh (h : (s.expire e.now).Reflects e) (hacc : e.Accounted) (id : Int) :
    s.Answers e (.refresh id) := by
  have hsame := h.valid_iff hacc id
  by_cases hid : e.Valid id
  · refine answers_ok rfl (if_pos hid) (if_pos (hsame.mp hid)) ⟨?_,?_,h.counted⟩
    · exact h.linked.refresh id fun l => expiry e.now l.ttl
    · rw [view_refresh _ id fun l => expiry e.now l.ttl,h.view]
      simp only [EagerStore.deadline_eq]
  · exact answers_error rfl (if_neg hid) (if_neg fun hany => hid (hsame.mpr hany))

theorem answers_delete (h : (s.expire e.now).Reflects e) (key : String) :
    s.Answers e (.delete key) := by
  have hsame := h.get?_entries key
  cases hkey : (s.expire e.now).entries.get? key with
  | none =>
    rw [hkey] at hsame
    exact answers_error rfl (by rw [EagerStore.answer,hsame,Option.map_none]) (by rw [hkey])
  | some v =>
    rw [hkey] at hsame
    have hlease := leaseAt?_of_get? hkey
    have hok : e.answer (.delete key) = .ok (.done,
        { e with
          entries := e.entries.erase key
          deleted := e.deleted ++ ((s.expire e.now).holding v).leaseId?.toList }) := by
      simp [EagerStore.answer,hsame]
    refine answers_ok (a := ()) rfl hok ?_ ⟨h.linked.delete key,?_,h.counted⟩
    · simp [hkey,hlease]
    · rw [h.linked.view_delete,h.view]

theorem answers_size (h : (s.expire e.now).Reflects e) : s.Answers e .size := by
  have hsize : e.entries.size = (s.expire e.now).entries.size := by rw [← h.view,size_view]
  exact .inr ⟨_,_,_,rfl,by rw [hsize]; rfl,h⟩

theorem answers (h : (s.expire e.now).Reflects e) (hacc : e.Accounted) (x : StoreAction) :
    s.Answers e x := by
  cases x with
  | create key value => exact h.answers_create key value
  | createWithLease key value ttl => exact h.answers_createWithLease key value ttl
  | read key => exact h.answers_read key
  | readAll start => exact h.answers_readAll start
  | update key value => exact h.answers_update key value
  | refresh id => exact h.answers_refresh hacc id
  | delete key => exact h.answers_delete key
  | size => exact h.answers_size

end Reflects

/-- Apart from what has run out, the store shows what the reference holds. -/
structure Mirrors (s : LeaseStore) (e : EagerStore) : Prop where
  linked : s.Linked
  visible : s.visible e.now = e.entries
  counted : s.lastLease = e.issued.length
  accounted : e.Accounted

namespace Mirrors

theorem opened (start : Instant) : empty.Mirrors (EagerStore.opened start) :=
  ⟨linked_empty,rfl,rfl,EagerStore.accounted_opened start⟩

theorem reflects (h : s.Mirrors e) : (s.expire e.now).Reflects e :=
  ⟨h.linked.expire e.now,by rw [h.linked.view_expire,h.visible],h.counted⟩

theorem tick (h : s.Mirrors e) : s.Mirrors e.tick where
  linked := h.linked
  visible := by
    have hlater : e.now ≤ e.now+1 := Int.le_add_of_nonneg_right (by decide)
    exact (s.visible_of_le hlater).trans (by rw [h.visible]; rfl)
  counted := h.counted
  accounted := by
    have hlater : EagerStore.Accounted { e with now := e.now+1 } :=
      h.accounted.congr (fun _ => rfl) rfl rfl rfl
    exact hlater.settle

theorem waitUntil (h : s.Mirrors e) (t : Instant) : s.Mirrors (e.waitUntil t) := by
  have hticks : ∀ n : Nat, s.Mirrors (EagerStore.tick^[n] e) := by
    intro n
    induction n with
    | zero => exact h
    | succ n ih => rw [Function.iterate_succ_apply']; exact ih.tick
  exact hticks _

theorem perform (h : s.Mirrors e) (x : StoreAction) :
    (s.perform e.now x).1 = (e.perform x).1 ∧
      (s.perform e.now x).2.Mirrors (e.perform x).2 := by
  have hbooks := h.accounted.perform x
  rcases h.reflects.answers h.accounted x with ⟨err,he,hs⟩ | ⟨reply,e',s',he,hs,hsame⟩
  · have hfailed : e.perform x = (.error err,e) := by rw [EagerStore.perform,he]
    rw [hs,hfailed]
    refine ⟨rfl,h.reflects.linked,?_,h.counted,h.accounted⟩
    exact (h.linked.visible_expire (Int.le_refl _)).trans h.visible
  · have hdone : e.perform x = (.ok reply,e'.settle) := by rw [EagerStore.perform,he]
    have hnow := EagerStore.now_of_answer he
    rw [hdone] at hbooks
    rw [hs,hdone]
    refine ⟨rfl,hsame.linked,?_,hsame.counted,hbooks⟩
    rw [LeaseStore.visible,hsame.view]
    rfl

theorem step (h : s.Mirrors e) {now : Instant} (hnow : e.now ≤ now) (x : StoreAction) :
    (s.perform now x).1 = ((e.waitUntil now).perform x).1 ∧
      (s.perform now x).2.Mirrors ((e.waitUntil now).perform x).2 := by
  have hwait := (h.waitUntil now).perform x
  rwa [EagerStore.now_waitUntil hnow] at hwait

theorem replies (h : s.Mirrors e) (xs : List (Instant × StoreAction))
    (hclock : (e.now :: xs.map Prod.fst).Pairwise (· ≤ ·)) : s.replies xs = e.replies xs := by
  induction xs generalizing s e with
  | nil => rfl
  | cons a xs ih =>
    obtain ⟨now,x⟩ := a
    obtain ⟨hfirst,hrest⟩ := List.pairwise_cons.mp hclock
    have hnow : e.now ≤ now := hfirst now List.mem_cons_self
    obtain ⟨hreply,hnext⟩ := h.step hnow x
    have hclock' : (((e.waitUntil now).perform x).2.now :: xs.map Prod.fst).Pairwise (· ≤ ·) := by
      rw [EagerStore.now_perform,EagerStore.now_waitUntil hnow]
      exact hrest
    rw [LeaseStore.replies,EagerStore.replies,hreply,ih hnext hclock']

/-- After any actions before a reading of the clock, the reference has not passed it. -/
theorem after (h : s.Mirrors e) (ys : List (Instant × StoreAction)) {now : Instant}
    (hclock : (e.now :: ys.map Prod.fst ++ [now]).Pairwise (· ≤ ·)) :
    (s.after ys).Mirrors (e.after ys) ∧ (e.after ys).now ≤ now := by
  induction ys generalizing s e with
  | nil =>
    obtain ⟨hfirst,-⟩ := List.pairwise_cons.mp hclock
    exact ⟨h,hfirst now (List.mem_singleton_self now)⟩
  | cons a ys ih =>
    obtain ⟨t,x⟩ := a
    obtain ⟨hfirst,hrest⟩ := List.pairwise_cons.mp hclock
    have ht : e.now ≤ t := hfirst t List.mem_cons_self
    apply ih (h.step ht x).2
    rw [EagerStore.now_perform,EagerStore.now_waitUntil ht]
    exact hrest

theorem leases_update (h : s.Mirrors e) (key : String) (value : Octets) {t : Instant}
    (ht : e.now ≤ t) :
    ((s.perform e.now (.update key value)).2.visible t).map (fun _ v => v.lease) =
      (s.visible t).map fun _ v => v.lease := by
  rw [s.visible_of_le ht,h.visible]
  rcases h.reflects.answers h.accounted (.update key value) with
    ⟨err,he,hs⟩ | ⟨reply,e',s',he,hs,hsame⟩
  · rw [hs,h.linked.visible_expire ht,s.visible_of_le ht,h.visible]
  · simp only [EagerStore.answer] at he
    split at he
    · cases he
      have hview : s'.view = e.entries.modify key fun v => { v with value := value } := hsame.view
      rw [hs,LeaseStore.visible,hview]
      apply Dictionary.map_filter_modify
      · exact fun _ _ => rfl
      · exact fun _ _ => rfl
    · cases he

end Mirrors

/-- What an action at a reading of the clock shows, does and leaves. -/
structure Agrees (s : LeaseStore) (e : EagerStore) (now : Instant) (x : StoreAction) : Prop where
  clock : e.now = now
  seen : s.visible now = e.entries
  reply : (s.perform now x).1 = (e.perform x).1
  left : (s.perform now x).2.visible now = (e.perform x).2.entries
  refused_iff : ∀ err, (s.perform now x).1 = .error err ↔ e.Refuses x err
  unchanged : ∀ err, (s.perform now x).1 = .error err →
    (e.perform x).2 = e ∧ (s.perform now x).2.lastLease = s.lastLease ∧
      ∀ t, now ≤ t → (s.perform now x).2.visible t = s.visible t
  leases_kept : ∀ key value, x = .update key value → ∀ t, now ≤ t →
    ((s.perform now x).2.visible t).map (fun _ v => v.lease) =
      (s.visible t).map fun _ v => v.lease

theorem Mirrors.agrees (h : s.Mirrors e) (x : StoreAction) : s.Agrees e e.now x where
  clock := rfl
  seen := h.visible
  reply := (h.perform x).1
  left := by
    have hleft := (h.perform x).2.visible
    rwa [EagerStore.now_perform] at hleft
  refused_iff := fun err => by
    rw [(h.perform x).1,← EagerStore.answer_eq_error_iff,EagerStore.perform]
    split <;> simp [*]
  unchanged := fun err herr => by
    rcases h.reflects.answers h.accounted x with ⟨err',he,hs⟩ | ⟨reply,e',s',he,hs,-⟩
    · rw [hs]
      exact ⟨by rw [EagerStore.perform,he],rfl,fun t ht => h.linked.visible_expire ht⟩
    · rw [hs] at herr
      cases herr
  leases_kept := by
    rintro key value rfl t ht
    exact h.leases_update key value ht

/-- However the clock runs, nobody can tell the store from one that drops every lease, and
its key, at the very moment it runs out. -/
theorem agrees_with_eager (start : Instant) (xs : List (Instant × StoreAction))
    (hclock : (start :: xs.map Prod.fst).Pairwise (· ≤ ·)) :
    empty.replies xs = (EagerStore.opened start).replies xs ∧
      ∀ ys now x zs, xs = ys ++ (now,x) :: zs →
        (empty.after ys).Agrees (((EagerStore.opened start).after ys).waitUntil now) now x := by
  have hopened := Mirrors.opened start
  refine ⟨hopened.replies xs hclock,?_⟩
  rintro ys now x zs rfl
  have hbefore : (start :: ys.map Prod.fst ++ [now]).Pairwise (· ≤ ·) := by
    refine hclock.sublist ?_
    simp
  obtain ⟨hmirrors,hnow⟩ := hopened.after ys hbefore
  have hagrees := (hmirrors.waitUntil now).agrees x
  rwa [EagerStore.now_waitUntil hnow] at hagrees

/-- A lease of five nanoseconds that is refreshed once, and one that is over at once. -/
theorem agrees_around_expiry :
    ([0,0,0,3,7,7,8,8,8,8,9,9,9] : List Instant).Pairwise (· ≤ ·) ∧
      empty.replies
        [(0,.createWithLease "a" [1] ⟨5,by decide⟩),
          (0,.create "a" [2]),
          (3,.refresh 1),
          (7,.update "a" [3]),
          (7,.read "a"),
          (8,.read "a"),
          (8,.refresh 1),
          (8,.createWithLease "a" [4] .zero),
          (8,.readAll ""),
          (9,.create "a" [5]),
          (9,.delete "a"),
          (9,.size)] =
        [.ok (.lease 1),
          .error (.alreadyExists "a"),
          .ok .done,
          .ok .done,
          .ok (.value [3]),
          .error (.notFound "a"),
          .error (.leaseNotFound 1),
          .ok (.lease 2),
          .ok (.listing []),
          .ok .done,
          .ok .done,
          .ok (.count 0)] :=
  ⟨by decide,(agrees_with_eager 0 _ (by decide)).1.trans (by decide +kernel)⟩

end LeaseStore
end ClusterFramework
