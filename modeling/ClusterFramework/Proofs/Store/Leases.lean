import ClusterFramework.Proofs.Store.Expiry

/-! The leases of a store over any actions, whatever the clock shows. Each is at exactly one key,
ids are handed out in ascending order and counted, and a lease that has ended, with its key or
because it was over, is not valid again. -/
namespace ClusterFramework

def StoreAction.handedOut? : StoreAction → Except StoreError StoreReply → Option Int
  | .createWithLease .., .ok (.lease id) => some id
  | _, _ => none

namespace LeaseStore

/-- The leases that are handed out over actions at the readings of a clock. -/
def handedOut (s : LeaseStore) (xs : List (Instant × StoreAction)) : List Int :=
  (xs.zip (s.replies xs)).filterMap fun a => a.1.2.handedOut? a.2

variable {s s' : LeaseStore} {now : Instant} {x : StoreAction} {id : Int} {new : Option Int}

theorem handedOut_cons (s : LeaseStore) (now : Instant) (x : StoreAction)
    (xs : List (Instant × StoreAction)) : s.handedOut ((now,x) :: xs) =
      (x.handedOut? (s.perform now x).1).toList ++ (s.perform now x).2.handedOut xs := by
  rw [handedOut,replies,List.zip_cons_cons,List.filterMap_cons]
  dsimp only
  cases x.handedOut? (s.perform now x).1 <;> rfl

/-- What an action makes of a store from which everything that is over has been dropped, and the
lease that it hands out. -/
inductive Change (s : LeaseStore) : StoreAction → Option Int → LeaseStore → Prop
  | unchanged (x : StoreAction) (hx : ∀ key, x = .delete key → s.leaseAt? key = none) :
      Change s x none s
  | created (key : String) (value : Octets) (hkey : s.entries.contains key = false) :
      Change s (.create key value) none { s with entries := s.entries.insert key ⟨value,none⟩ }
  | leased (key : String) (value : Octets) (ttl : Duration) (t : Instant)
      (hkey : s.entries.contains key = false) :
      Change s (.createWithLease key value ttl) (some (s.lastLease+1))
        { entries := s.entries.insert key ⟨value,some (s.lastLease+1)⟩
          leases := s.leases ++ [⟨s.lastLease+1,ttl,t⟩]
          lastLease := s.lastLease+1 }
  | updated (key : String) (value : Octets) : Change s (.update key value) none
      { s with entries := s.entries.modify key fun e => { e with value := value } }
  | refreshed (id : Int) (f : Lease → Instant) : Change s (.refresh id) none
      { s with leases := s.leases.map fun l =>
        if l.id = id then { l with expiresAt := f l } else l }
  | deleted (key : String) : Change s (.delete key) none
      { s with
        entries := s.entries.erase key
        leases := s.leases.filter fun l => some l.id ≠ s.leaseAt? key }

theorem change_perform (s : LeaseStore) (now : Instant) (x : StoreAction) :
    Change (s.expire now) x (x.handedOut? (s.perform now x).1) (s.perform now x).2 := by
  have hsame : ∀ reply, (∀ key, x = .delete key → (s.expire now).leaseAt? key = none) →
      s.perform now x = (reply,s.expire now) → x.handedOut? reply = none →
      Change (s.expire now) x (x.handedOut? (s.perform now x).1) (s.perform now x).2 := by
    intro reply hx hperform hnone
    rw [hperform,hnone]
    exact .unchanged x hx
  generalize hs : s.expire now = left at hsame ⊢
  cases x with
  | create key value =>
    cases hkey : left.entries.contains key with
    | true =>
      exact hsame (.error (.alreadyExists key)) (by simp)
        (by simp [perform,replied,create,act,hs,hkey,Except.map]) rfl
    | false =>
      have hperform : s.perform now (.create key value) =
          (.ok .done,{ left with entries := left.entries.insert key ⟨value,none⟩ }) := by
        simp [perform,replied,create,act,hs,hkey,Except.map]
      rw [hperform]
      exact .created key value hkey
  | createWithLease key value ttl =>
    cases hkey : left.entries.contains key with
    | true =>
      exact hsame (.error (.alreadyExists key)) (by simp)
        (by simp [perform,replied,createWithLease,act,hs,hkey,Except.map]) rfl
    | false =>
      have hperform : s.perform now (.createWithLease key value ttl) =
          (.ok (.lease (left.lastLease+1)),
            { entries := left.entries.insert key ⟨value,some (left.lastLease+1)⟩
              leases := left.leases ++ [⟨left.lastLease+1,ttl,expiry now ttl⟩]
              lastLease := left.lastLease+1 }) := by
        simp [perform,replied,createWithLease,act,hs,hkey,Except.map]
      rw [hperform]
      exact .leased key value ttl (expiry now ttl) hkey
  | read key =>
    cases hkey : left.entries.get? key with
    | none =>
      exact hsame (.error (.notFound key)) (by simp)
        (by simp [perform,replied,read,act,hs,hkey,Except.map]) rfl
    | some e =>
      exact hsame (.ok (.value e.value)) (by simp)
        (by simp [perform,replied,read,act,hs,hkey,Except.map]) rfl
  | readAll start =>
    exact hsame (.ok (.listing (scan left.entries start))) (by simp)
      (by simp [perform,replied,readAll,act,hs,Except.map]) rfl
  | update key value =>
    cases hkey : left.entries.contains key with
    | true =>
      have hperform : s.perform now (.update key value) = (.ok .done,
          { left with entries := left.entries.modify key fun e => { e with value := value } }) := by
        simp [perform,replied,update,act,hs,hkey,Except.map]
      rw [hperform]
      exact .updated key value
    | false =>
      exact hsame (.error (.notFound key)) (by simp)
        (by simp [perform,replied,update,act,hs,hkey,Except.map]) rfl
  | refresh id =>
    cases hid : left.leases.any fun l => l.id = id with
    | true =>
      have hperform : s.perform now (.refresh id) = (.ok .done,
          { left with leases := left.leases.map fun l =>
            if l.id = id then { l with expiresAt := expiry now l.ttl } else l }) := by
        simp only [perform,replied,refresh,act,hs,hid,if_true,Except.map]
      rw [hperform]
      exact .refreshed id fun l => expiry now l.ttl
    | false =>
      exact hsame (.error (.leaseNotFound id)) (by simp)
        (by simp only [perform,replied,refresh,act,hs,hid,Except.map,Bool.false_eq_true,if_false])
        rfl
  | delete key =>
    cases hkey : left.entries.get? key with
    | none =>
      refine hsame (.error (.notFound key)) ?_
        (by simp [perform,replied,delete,act,hs,hkey,Except.map]) rfl
      rintro _ ⟨⟩
      rw [leaseAt?,hkey,Option.bind_none]
    | some e =>
      have hperform : s.perform now (.delete key) = (.ok .done,
          { left with
            entries := left.entries.erase key
            leases := left.leases.filter fun l => some l.id ≠ left.leaseAt? key }) := by
        simp [perform,replied,delete,act,hs,hkey,Except.map,leaseAt?_of_get? hkey]
      rw [hperform]
      exact .deleted key
  | size => exact hsame (.ok (.count (s.size now))) (by simp) (by rw [perform,hs]) rfl

namespace Change

theorem linked (h : Change s x new s') (hs : s.Linked) : s'.Linked := by
  cases h with
  | unchanged x hx => exact hs
  | created key value hkey => exact hs.create hkey value
  | leased key value ttl t hkey => exact hs.createWithLease hkey value ttl t
  | updated key value => exact hs.update key value
  | refreshed id f => exact hs.refresh id f
  | deleted key => exact hs.delete key

theorem lastLease_eq (h : Change s x new s') :
    s'.lastLease = s.lastLease+new.toList.length := by
  cases h with
  | leased key value ttl t hkey => rfl
  | _ => exact (Int.add_zero _).symm

theorem eq_of_mem (h : Change s x new s') (hid : id ∈ new.toList) : id = s.lastLease+1 := by
  cases h with
  | leased key value ttl t hkey => exact List.mem_singleton.mp hid
  | _ => cases hid

theorem mem_leaseIds_iff (h : Change s x new s') :
    id ∈ s'.leaseIds ↔
      (id ∈ s.leaseIds ∧ ∀ key, x = .delete key → s.leaseAt? key ≠ some id) ∨ id ∈ new.toList := by
  cases h with
  | unchanged x hx =>
    have hkept : ∀ key, x = .delete key → s.leaseAt? key ≠ some id := fun key hkey => by
      rw [hx key hkey]
      exact nofun
    rw [Option.toList_none,or_iff_left List.not_mem_nil,and_iff_left hkept]
  | leased key value ttl t hkey => simp [leaseIds]
  | deleted key =>
    simp only [leaseIds,List.mem_map,List.mem_filter,decide_eq_true_eq,StoreAction.delete.injEq,
      Option.toList_none,List.not_mem_nil,or_false]
    constructor
    · rintro ⟨l,⟨hl,hne⟩,rfl⟩
      exact ⟨⟨l,hl,rfl⟩,fun _ hkey => hkey ▸ hne.symm⟩
    · rintro ⟨⟨l,hl,rfl⟩,hne⟩
      exact ⟨l,⟨hl,(hne key rfl).symm⟩,rfl⟩
  | refreshed id' f => simp [leaseIds_refreshed]
  | _ => simp [leaseIds]

end Change

/-- A lease ends when an action finds that it is over, or deletes its key. -/
inductive Ends (s : LeaseStore) (now : Instant) (x : StoreAction) (id : Int) : Prop
  | expired (l : Lease) (hl : l ∈ s.leases) (hid : l.id = id) (hover : l.expiresAt ≤ now)
  | deleted (key : String) (hx : x = .delete key) (hkey : s.leaseAt? key = some id)

theorem not_contains_endedIds_iff (s : LeaseStore) (now : Instant) (id : Int) :
    (!(s.endedIds now).contains id) ↔ ∀ l ∈ s.leases, l.id = id → ¬l.expiresAt ≤ now := by
  simp only [Bool.not_eq_true',List.contains_eq_mem,decide_eq_false_iff_not,endedIds,
    List.mem_map,List.mem_filter,Lease.isOver,decide_eq_true_eq]
  constructor
  · exact fun hnot l hl hid hover => hnot ⟨l,⟨hl,hover⟩,hid⟩
  · rintro hall ⟨l,⟨hl,hover⟩,hid⟩
    exact hall l hl hid hover

theorem Linked.mem_leaseIds_expire_iff (h : s.Linked) (now : Instant) :
    id ∈ (s.expire now).leaseIds ↔
      id ∈ s.leaseIds ∧ ∀ l ∈ s.leases, l.id = id → ¬l.expiresAt ≤ now := by
  rw [h.leaseIds_expire,List.mem_filter,not_contains_endedIds_iff]

theorem leaseAt?_expire_eq_some_iff {key : String} : (s.expire now).leaseAt? key = some id ↔
    s.leaseAt? key = some id ∧ ∀ l ∈ s.leases, l.id = id → ¬l.expiresAt ≤ now := by
  rw [leaseAt?_expire,Option.filter_eq_some_iff,not_contains_endedIds_iff]

theorem Linked.mem_of_ends (h : s.Linked) (hends : s.Ends now x id) : id ∈ s.leaseIds := by
  cases hends with
  | expired l hl hid hover => exact List.mem_map.mpr ⟨l,hl,hid⟩
  | deleted key hx hkey => exact (h.held.held_iff id).mp ⟨key,hkey⟩

theorem Linked.perform (h : s.Linked) (now : Instant) (x : StoreAction) :
    (s.perform now x).2.Linked := (change_perform s now x).linked (h.expire now)

theorem lastLease_perform (s : LeaseStore) (now : Instant) (x : StoreAction) :
    (s.perform now x).2.lastLease =
      s.lastLease+(x.handedOut? (s.perform now x).1).toList.length :=
  (change_perform s now x).lastLease_eq

theorem eq_of_mem_handedOut? (h : id ∈ (x.handedOut? (s.perform now x).1).toList) :
    id = s.lastLease+1 := (change_perform s now x).eq_of_mem h

/-- An action ends leases in these two ways only. -/
theorem Linked.not_mem_perform_iff (h : s.Linked) (hid : id ∈ s.leaseIds) :
    id ∉ (s.perform now x).2.leaseIds ↔ s.Ends now x id := by
  have hold : id ∉ (x.handedOut? (s.perform now x).1).toList := fun hmem => by
    have hnew := eq_of_mem_handedOut? hmem
    have hrange := (h.range id hid).2
    omega
  rw [(change_perform s now x).mem_leaseIds_iff,or_iff_left hold,h.mem_leaseIds_expire_iff]
  constructor
  · intro hnot
    by_contra hends
    refine hnot ⟨⟨hid,fun l hl hl' hover => hends (.expired l hl hl' hover)⟩,fun key hx hkey => ?_⟩
    exact hends (.deleted key hx (leaseAt?_expire_eq_some_iff.mp hkey).1)
  · rintro (⟨l,hl,hl',hover⟩ | ⟨key,hx,hkey⟩) ⟨⟨_,hkept⟩,hundeleted⟩
    · exact hkept l hl hl' hover
    · exact hundeleted key hx (leaseAt?_expire_eq_some_iff.mpr ⟨hkey,hkept⟩)

theorem Linked.after (h : s.Linked) (xs : List (Instant × StoreAction)) : (s.after xs).Linked := by
  induction xs generalizing s with
  | nil => exact h
  | cons a xs ih => exact ih (h.perform a.1 a.2)

theorem lastLease_after (s : LeaseStore) (xs : List (Instant × StoreAction)) :
    (s.after xs).lastLease = s.lastLease+(s.handedOut xs).length := by
  induction xs generalizing s with
  | nil => exact (Int.add_zero _).symm
  | cons a xs ih =>
    rw [handedOut_cons,LeaseStore.after,ih,lastLease_perform,List.length_append,Int.natCast_add]
    exact Int.add_assoc ..

theorem lt_of_mem_handedOut {xs : List (Instant × StoreAction)} (h : id ∈ s.handedOut xs) :
    s.lastLease < id := by
  induction xs generalizing s with
  | nil => cases h
  | cons a xs ih =>
    rw [handedOut_cons,List.mem_append] at h
    rcases h with h | h
    · have hnew := eq_of_mem_handedOut? h
      omega
    · have hrest := ih h
      rw [lastLease_perform] at hrest
      omega

theorem pairwise_handedOut (s : LeaseStore) (xs : List (Instant × StoreAction)) :
    (s.handedOut xs).Pairwise (· < ·) := by
  induction xs generalizing s with
  | nil => exact .nil
  | cons a xs ih =>
    rw [handedOut_cons]
    refine List.pairwise_append.mpr ⟨?_,ih _,fun id hid id' hid' => ?_⟩
    · cases a.2.handedOut? (s.perform a.1 a.2).1 with
      | none => exact .nil
      | some id => exact List.pairwise_singleton _ id
    · have hlater := lt_of_mem_handedOut hid'
      have hnew := eq_of_mem_handedOut? hid
      have hlength := List.length_pos_of_mem hid
      rw [lastLease_perform] at hlater
      omega

/-- What is not valid, though it was handed out, stays so. -/
theorem Linked.not_mem_after (h : s.Linked) (hle : id ≤ s.lastLease) (hid : id ∉ s.leaseIds)
    (xs : List (Instant × StoreAction)) : id ∉ (s.after xs).leaseIds := by
  induction xs generalizing s with
  | nil => exact hid
  | cons a xs ih =>
    refine ih (h.perform a.1 a.2) ?_ ?_
    · rw [lastLease_perform]
      omega
    · rw [(change_perform s a.1 a.2).mem_leaseIds_iff,not_or,h.mem_leaseIds_expire_iff]
      refine ⟨fun hmem => hid hmem.1.1,fun hmem => ?_⟩
      have hnew := eq_of_mem_handedOut? hmem
      omega

theorem refresh_of_not_mem (hid : id ∉ s.leaseIds) (now : Instant) :
    (s.perform now (.refresh id)).1 = .error (.leaseNotFound id) := by
  have hnone : ((s.expire now).leases.any fun l => l.id = id) = false := by
    refine List.any_eq_false.mpr fun l hl hlid => hid ?_
    exact List.mem_map.mpr ⟨l,(List.mem_filter.mp hl).1,of_decide_eq_true hlid⟩
  simp only [LeaseStore.perform,replied,LeaseStore.refresh,act,hnone,Except.map,
    Bool.false_eq_true,if_false]

/-- Whatever is asked of a store, and whatever the clock shows, its leases and the keys that hang
on one correspond one to one, with ids from one to the number of leases handed out. Ids are
handed out in ascending order. A lease ends only when it is found to be over or its key is
deleted, and it is never valid again. -/
theorem leases_of_actions (xs : List (Instant × StoreAction)) :
    let s := empty.after xs
    let ids := empty.handedOut xs
    (∀ key id, s.leaseAt? key = some id → id ∈ s.leaseIds) ∧
      (∀ id ∈ s.leaseIds, ∃! key, s.leaseAt? key = some id) ∧
      s.leaseIds.Nodup ∧ (∀ id ∈ s.leaseIds, 1 ≤ id ∧ id ≤ s.lastLease) ∧
      s.lastLease = ids.length ∧ ids.Pairwise (· < ·) ∧
      (∀ now x id, id ∈ s.leaseIds →
        (id ∉ (s.perform now x).2.leaseIds ↔ s.Ends now x id)) ∧
      ∀ now x id, s.Ends now x id → ∀ ys t,
        let later := (s.perform now x).2.after ys
        (∀ key, later.leaseAt? key ≠ some id) ∧ id ∉ later.leaseIds ∧
          (later.perform t (.refresh id)).1 = .error (.leaseNotFound id) := by
  intro s ids
  have hs : s.Linked := linked_empty.after xs
  refine ⟨fun key id hkey => (hs.held.held_iff id).mp ⟨key,hkey⟩,fun id hid => ?_,hs.nodup,hs.range,
    ?_,pairwise_handedOut empty xs,fun now x id => hs.not_mem_perform_iff,
    fun now x id hends ys t => ?_⟩
  · obtain ⟨key,hkey⟩ := (hs.held.held_iff id).mpr hid
    exact ⟨key,hkey,fun key' hkey' => hs.held.once hkey' hkey⟩
  · exact (lastLease_after empty xs).trans (Int.zero_add _)
  · intro later
    have hid := hs.mem_of_ends hends
    have hgone : id ∉ later.leaseIds := by
      refine (hs.perform now x).not_mem_after ?_ ((hs.not_mem_perform_iff hid).mpr hends) ys
      have hle := (hs.range id hid).2
      rw [lastLease_perform]
      omega
    have hlater : later.Linked := (hs.perform now x).after ys
    exact ⟨fun key hkey => hgone ((hlater.held.held_iff id).mp ⟨key,hkey⟩),hgone,
      refresh_of_not_mem hgone t⟩

/-- The clock may go back; the second lease ends with its key, the others are over at once. -/
example : empty.handedOut
    [(0,.createWithLease "a" [1] .zero),(5,.createWithLease "a" [2] ⟨5,by decide⟩),
      (4,.delete "a"),(3,.createWithLease "a" [3] .zero),(2,.refresh 1)] = [1,2,3] := by
  decide +kernel

end LeaseStore
end ClusterFramework
