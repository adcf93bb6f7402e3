import ClusterFramework.Proofs.Store.View

/-! A store that keeps each lease with its key and watches the clock: at every nanosecond it
drops what is over. It writes down which leases it has handed out, and which have run out or
went with a key that was deleted. -/
namespace ClusterFramework

/-- What may be asked of a store. -/
inductive StoreAction where
  | create (key : String) (value : Octets)
  | createWithLease (key : String) (value : Octets) (ttl : Duration)
  | read (key : String)
  | readAll (start : String)
  | update (key : String) (value : Octets)
  | refresh (lease : Int)
  | delete (key : String)
  | size
  deriving DecidableEq,Repr

inductive StoreReply where
  | done
  | lease (id : Int)
  | value (v : Octets)
  | listing (es : List (String × Octets))
  | count (n : Nat)
  deriving DecidableEq,Repr

structure EagerStore where
  now : Instant
  entries : Dictionary Holding
  issued : List Int
  expired : List Int
  deleted : List Int
  deriving DecidableEq,Repr

namespace EagerStore

def opened (start : Instant) : EagerStore := ⟨start,.empty,[],[],[]⟩

def overdue (e : EagerStore) : List Int :=
  (e.entries.filter fun _ h => h.isOver e.now).values.filterMap Holding.leaseId?

/-- Drops what is over. -/
def settle (e : EagerStore) : EagerStore :=
  { e with
    entries := e.entries.filter fun _ h => !h.isOver e.now
    expired := e.expired ++ e.overdue }

def tick (e : EagerStore) : EagerStore := settle { e with now := e.now+1 }

def waitUntil (e : EagerStore) (t : Instant) : EagerStore := tick^[(t-e.now).toNat] e

/-- A lease runs for its whole time, but not beyond the end of the calendar. -/
def deadline (e : EagerStore) (ttl : Duration) : Instant :=
  if e.now+ttl.nanos ≤ Instant.latest then e.now+ttl.nanos else Instant.latest

/-- Handed out, and neither run out nor gone with its key. -/
def Valid (e : EagerStore) (id : Int) : Prop := id ∈ e.issued ∧ id ∉ e.expired ∧ id ∉ e.deleted

instance (e : EagerStore) (id : Int) : Decidable (e.Valid id) :=
  inferInstanceAs (Decidable (_ ∧ _))

def answer (e : EagerStore) : StoreAction → Except StoreError (StoreReply × EagerStore)
  | .create key value =>
    if e.entries.contains key then .error (.alreadyExists key)
    else .ok (.done,{ e with entries := e.entries.insert key ⟨value,none⟩ })
  | .createWithLease key value ttl =>
    if e.entries.contains key then .error (.alreadyExists key)
    else
      let id : Int := e.issued.length+1
      .ok (.lease id,
        { e with
          entries := e.entries.insert key ⟨value,some ⟨id,ttl,e.deadline ttl⟩⟩
          issued := e.issued ++ [id] })
  | .read key =>
    match e.entries.get? key with
    | none => .error (.notFound key)
    | some h => .ok (.value h.value,e)
  | .readAll start =>
    let found := e.entries.filter fun key _ => LeaseStore.startsWith key start
    .ok (.listing (found.map fun _ h => h.value).entries,e)
  | .update key value =>
    if e.entries.contains key then
      .ok (.done,{ e with entries := e.entries.modify key fun h => { h with value := value } })
    else .error (.notFound key)
  | .refresh id =>
    if e.Valid id then
      .ok (.done,
        { e with entries := e.entries.map fun _ h => h.renew id fun l => e.deadline l.ttl })
    else .error (.leaseNotFound id)
  | .delete key =>
    match e.entries.get? key with
    | none => .error (.notFound key)
    | some h =>
      .ok (.done,
        { e with
          entries := e.entries.erase key
          deleted := e.deleted ++ h.leaseId?.toList })
  | .size => .ok (.count e.entries.size,e)

/-- What fails leaves the store as it is. -/
def perform (e : EagerStore) (x : StoreAction) : Except StoreError StoreReply × EagerStore :=
  match e.answer x with
  | .ok (r,e') => (.ok r,e'.settle)
  | .error err => (.error err,e)

variable {e e' : EagerStore} {x : StoreAction}

/-- Keys are refused for being there or not, leases for never having been handed out, having
run out, or having gone with their key. -/
inductive Refuses (e : EagerStore) : StoreAction → StoreError → Prop where
  | create {key value} : e.entries.contains key →
      Refuses e (.create key value) (.alreadyExists key)
  | createWithLease {key value ttl} : e.entries.contains key →
      Refuses e (.createWithLease key value ttl) (.alreadyExists key)
  | read {key} : ¬e.entries.contains key → Refuses e (.read key) (.notFound key)
  | update {key value} : ¬e.entries.contains key → Refuses e (.update key value) (.notFound key)
  | delete {key} : ¬e.entries.contains key → Refuses e (.delete key) (.notFound key)
  | neverIssued {id} : id ∉ e.issued → Refuses e (.refresh id) (.leaseNotFound id)
  | expired {id} : id ∈ e.expired → Refuses e (.refresh id) (.leaseNotFound id)
  | deleted {id} : id ∈ e.deleted → Refuses e (.refresh id) (.leaseNotFound id)

theorem Refuses.of_answer {err : StoreError} (h : e.answer x = .error err) :
    e.Refuses x err := by
  cases x with
  | create key value =>
    simp only [answer] at h
    split at h
    · cases h; exact .create ‹_›
    · cases h
  | createWithLease key value ttl =>
    simp only [answer] at h
    split at h
    · cases h; exact .createWithLease ‹_›
    · cases h
  | read key =>
    simp only [answer] at h
    split at h
    · rename_i hnone
      cases h
      exact .read (by simp [Dictionary.contains,hnone])
    · cases h
  | readAll start => cases h
  | update key value =>
    simp only [answer] at h
    split at h
    · cases h
    · cases h; exact .update ‹_›
  | refresh id =>
    simp only [answer] at h
    split at h
    · cases h
    · rename_i hvalid
      cases h
      by_cases hissued : id ∈ e.issued
      · by_cases hexpired : id ∈ e.expired
        · exact .expired hexpired
        · by_cases hdeleted : id ∈ e.deleted
          · exact .deleted hdeleted
          · exact absurd ⟨hissued,hexpired,hdeleted⟩ hvalid
      · exact .neverIssued hissued
  | delete key =>
    simp only [answer] at h
    split at h
    · rename_i hnone
      cases h
      exact .delete (by simp [Dictionary.contains,hnone])
    · cases h
  | size => cases h

theorem Refuses.answer {err : StoreError} (h : e.Refuses x err) : e.answer x = .error err := by
  cases h with
  | create h => simp [EagerStore.answer,h]
  | createWithLease h => simp [EagerStore.answer,h]
  | read h =>
    have hnone := (Dictionary.get?_eq_none_iff ..).mpr (Bool.eq_false_iff.mpr h)
    simp [EagerStore.answer,hnone]
  | update h => simp [EagerStore.answer,h]
  | delete h =>
    have hnone := (Dictionary.get?_eq_none_iff ..).mpr (Bool.eq_false_iff.mpr h)
    simp [EagerStore.answer,hnone]
  | neverIssued h => simp [EagerStore.answer,Valid,h]
  | expired h => simp [EagerStore.answer,Valid,h]
  | deleted h => simp [EagerStore.answer,Valid,h]

theorem answer_eq_error_iff {err : StoreError} : e.answer x = .error err ↔ e.Refuses x err :=
  ⟨Refuses.of_answer,Refuses.answer⟩

variable {key : String} {id : Int}

def leaseAt? (e : EagerStore) (key : String) : Option Int :=
  (e.entries.get? key).bind Holding.leaseId?

/-- The leases held are the valid ones, each at one key. -/
structure Accounted (e : EagerStore) : Prop where
  held : HeldOnce e.leaseAt? e.Valid
  spent : ∀ id, id ∈ e.expired ∨ id ∈ e.deleted → id ∈ e.issued
  range : ∀ id ∈ e.issued, id ≤ e.issued.length

theorem accounted_opened (start : Instant) : (opened start).Accounted where
  held := .empty (fun _ => rfl) (fun _ h => List.not_mem_nil h.1)
  spent := by simp [opened]
  range := by simp [opened]

theorem leaseAt?_of_get? {h : Holding} (hkey : e.entries.get? key = some h) :
    e.leaseAt? key = h.leaseId? := by
  rw [leaseAt?,hkey,Option.bind_some]

theorem leaseAt?_of_not_contains (hkey : e.entries.contains key = false) :
    e.leaseAt? key = none := by
  rw [leaseAt?,(Dictionary.get?_eq_none_iff ..).mpr hkey,Option.bind_none]

theorem mem_overdue_iff : id ∈ e.overdue ↔
    ∃ key h, e.entries.get? key = some h ∧ h.isOver e.now ∧ h.leaseId? = some id := by
  simp only [overdue,List.mem_filterMap,Dictionary.mem_values_iff,Dictionary.get?_filter,
    Option.filter_eq_some_iff]
  constructor
  · rintro ⟨h,⟨key,hkey,hover⟩,hid⟩
    exact ⟨key,h,hkey,hover,hid⟩
  · rintro ⟨key,h,hkey,hover,hid⟩
    exact ⟨h,⟨key,hkey,hover⟩,hid⟩

namespace Accounted

/-- A key keeps its lease if the lease is not overdue. -/
theorem leaseAt?_settle (h : e.Accounted) (key : String) (id : Int) :
    e.settle.leaseAt? key = some id ↔ e.leaseAt? key = some id ∧ id ∉ e.overdue := by
  cases hkey : e.entries.get? key with
  | none => simp [leaseAt?,settle,hkey]
  | some v =>
    have hat := leaseAt?_of_get? hkey
    by_cases hover : v.isOver e.now
    · have hgone : e.settle.leaseAt? key = none := by
        simp [leaseAt?,settle,hkey,hover,Option.filter_some]
      rw [hgone,hat]
      refine iff_of_false (Option.some_ne_none id ·.symm) ?_
      rintro ⟨hid,hnot⟩
      exact hnot (mem_overdue_iff.mpr ⟨key,v,hkey,hover,hid⟩)
    · have hkept : e.settle.leaseAt? key = e.leaseAt? key := by
        simp [leaseAt?,settle,hkey,hover,Option.filter_some]
      rw [hkept]
      refine (and_iff_left_of_imp fun hid hmem => ?_).symm
      obtain ⟨key',v',hkey',hover',hid'⟩ := mem_overdue_iff.mp hmem
      have heq := h.held.once hid ((leaseAt?_of_get? hkey').trans hid')
      subst heq
      rw [hkey,Option.some.injEq] at hkey'
      exact hover (hkey' ▸ hover')

theorem settle (h : e.Accounted) : e.settle.Accounted where
  held := h.held.restrict (· ∉ e.overdue) h.leaseAt?_settle fun id => by
    simp only [Valid,EagerStore.settle,List.mem_append,not_or]
    tauto
  spent := fun id hid => by
    change id ∈ e.expired ++ e.overdue ∨ id ∈ e.deleted at hid
    rw [List.mem_append] at hid
    rcases hid with (hid | hid) | hid
    · exact h.spent id (.inl hid)
    · obtain ⟨key,v,hkey,-,hid⟩ := mem_overdue_iff.mp hid
      exact ((h.held.held_iff id).mp ⟨key,(leaseAt?_of_get? hkey).trans hid⟩).1
    · exact h.spent id (.inr hid)
  range := h.range

theorem congr (h : e.Accounted) (hat : ∀ key, e'.leaseAt? key = e.leaseAt? key)
    (hissued : e'.issued = e.issued) (hexpired : e'.expired = e.expired)
    (hdeleted : e'.deleted = e.deleted) : e'.Accounted where
  held := h.held.congr hat fun id => by rw [Valid,hissued,hexpired,hdeleted,Valid]
  spent := by rw [hissued,hexpired,hdeleted]; exact h.spent
  range := by rw [hissued]; exact h.range

theorem create (h : e.Accounted) (hkey : e.entries.contains key = false) (value : Octets) :
    EagerStore.Accounted { e with entries := e.entries.insert key ⟨value,none⟩ } := by
  refine h.congr (fun key' => ?_) rfl rfl rfl
  by_cases hk : key' = key
  · rw [hk,leaseAt?_of_not_contains hkey]
    simp [leaseAt?,Holding.leaseId?]
  · simp [leaseAt?,hk]

theorem createWithLease (h : e.Accounted) (hkey : e.entries.contains key = false)
    (value : Octets) {l : Lease} (hl : l.id = e.issued.length+1) :
    EagerStore.Accounted { e with
      entries := e.entries.insert key ⟨value,some l⟩
      issued := e.issued ++ [l.id] } := by
  have hfresh : l.id ∉ e.issued := by
    intro hmem
    have hle := h.range _ hmem
    omega
  have hunspent : l.id ∉ e.expired ∧ l.id ∉ e.deleted :=
    not_or.mp fun hid => hfresh (h.spent _ hid)
  refine ⟨h.held.extend (leaseAt?_of_not_contains hkey) (fun hid => hfresh hid.1)
    (fun key' => ?_) (fun id => ?_),fun id hid => ?_,fun id hid => ?_⟩
  · by_cases hk : key' = key <;> simp [leaseAt?,Holding.leaseId?,hk]
  · simp only [Valid,List.mem_append,List.mem_singleton]
    by_cases hid : id = l.id
    · simp only [hid,hunspent,or_true,not_false_eq_true,and_self]
    · simp only [hid,or_false]
  · exact List.mem_append_left _ (h.spent id hid)
  · rw [List.length_append,List.length_singleton]
    rcases List.mem_append.mp hid with hid | hid
    · have hle := h.range id hid
      omega
    · have heq := List.mem_singleton.mp hid
      omega

theorem update (h : e.Accounted) (key : String) (value : Octets) :
    EagerStore.Accounted
      { e with entries := e.entries.modify key fun v => { v with value := value } } := by
  refine h.congr (fun key' => ?_) rfl rfl rfl
  by_cases hk : key' = key
  · cases hv : e.entries.get? key <;> simp [leaseAt?,Holding.leaseId?,hk,hv]
  · simp [leaseAt?,hk]

theorem refresh (h : e.Accounted) (id : Int) (f : Lease → Instant) :
    EagerStore.Accounted { e with entries := e.entries.map fun _ v => v.renew id f } := by
  refine h.congr (fun key => ?_) rfl rfl rfl
  cases hv : e.entries.get? key <;> simp [leaseAt?,hv]

theorem delete (h : e.Accounted) (key : String) :
    EagerStore.Accounted { e with
      entries := e.entries.erase key
      deleted := e.deleted ++ (e.leaseAt? key).toList } := by
  refine ⟨h.held.restrict (fun id => e.leaseAt? key ≠ some id) (fun key' id => ?_)
    (fun id => ?_),fun id hid => ?_,h.range⟩
  · by_cases hk : key' = key
    · rw [hk]
      simp [leaseAt?]
    · have hother : e.leaseAt? key' = some id → e.leaseAt? key ≠ some id :=
        fun hkey' hkey => hk (h.held.once hkey' hkey)
      rw [and_iff_left_of_imp hother]
      simp [leaseAt?,hk]
  · simp only [Valid,List.mem_append,Option.mem_toList,not_or]
    tauto
  · rw [List.mem_append,Option.mem_toList] at hid
    rcases hid with hid | hid | hid
    · exact h.spent id (.inl hid)
    · exact h.spent id (.inr hid)
    · exact ((h.held.held_iff id).mp ⟨key,hid⟩).1

theorem of_answer (h : e.Accounted) {r : StoreReply} (hx : e.answer x = .ok (r,e')) :
    e'.Accounted := by
  cases x with
  | create key value =>
    simp only [answer] at hx
    split at hx
    · cases hx
    · rename_i hkey
      cases hx
      exact h.create (Bool.eq_false_iff.mpr hkey) value
  | createWithLease key value ttl =>
    simp only [answer] at hx
    split at hx
    · cases hx
    · rename_i hkey
      cases hx
      exact h.createWithLease (Bool.eq_false_iff.mpr hkey) value
        (l := ⟨e.issued.length+1,ttl,e.deadline ttl⟩) rfl
  | read key =>
    simp only [answer] at hx
    split at hx
    · cases hx
    · cases hx; exact h
  | readAll start => cases hx; exact h
  | update key value =>
    simp only [answer] at hx
    split at hx
    · cases hx; exact h.update key value
    · cases hx
  | refresh id =>
    simp only [answer] at hx
    split at hx
    · cases hx; exact h.refresh id _
    · cases hx
  | delete key =>
    simp only [answer] at hx
    split at hx
    · cases hx
    · rename_i v hkey
      cases hx
      rw [← leaseAt?_of_get? hkey]
      exact h.delete key
  | size => cases hx; exact h

/-- The books stay right whatever is asked. -/
theorem perform (h : e.Accounted) (x : StoreAction) : (e.perform x).2.Accounted := by
  unfold EagerStore.perform
  split
  · exact (h.of_answer ‹_›).settle
  · exact h

end Accounted
end EagerStore
end ClusterFramework
