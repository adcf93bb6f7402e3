import ClusterFramework.Proofs.Dictionary
import ClusterFramework.Store.Lease
import Mathlib.Data.List.Nodup

/-! Keys and leases hang together: a lease that a key hangs on is there, no two keys hang on
one lease, and no lease is without its key. Whatever happens to a store keeps it so. -/
namespace ClusterFramework

/-- Every id that is live is held, and at one key only. -/
structure HeldOnce (held : String → Option Int) (live : Int → Prop) : Prop where
  held_iff : ∀ id, (∃ key, held key = some id) ↔ live id
  once : ∀ {key key' id}, held key = some id → held key' = some id → key = key'

namespace HeldOnce

variable {held held' : String → Option Int} {live live' : Int → Prop}

theorem empty (hnone : ∀ key, held key = none) (hdead : ∀ id, ¬live id) : HeldOnce held live where
  held_iff := fun id => by simp [hnone,hdead]
  once := by simp [hnone]

/-- Ids are let go where they are held. -/
theorem restrict (h : HeldOnce held live) (p : Int → Prop)
    (hheld : ∀ key id, held' key = some id ↔ held key = some id ∧ p id)
    (hlive : ∀ id, live' id ↔ live id ∧ p id) : HeldOnce held' live' where
  held_iff := fun id => by
    simp only [hheld,hlive,← h.held_iff id,exists_and_right]
  once := fun hkey hkey' => h.once ((hheld ..).mp hkey).1 ((hheld ..).mp hkey').1

theorem congr (h : HeldOnce held live) (hheld : ∀ key, held' key = held key)
    (hlive : ∀ id, live' id ↔ live id) : HeldOnce held' live' :=
  h.restrict (fun _ => True) (fun key id => by rw [hheld,and_true])
    (fun id => by rw [hlive,and_true])

/-- A new id comes to a key that held none. -/
theorem extend (h : HeldOnce held live) {key : String} {id : Int} (hkey : held key = none)
    (hid : ¬live id) (hheld : ∀ key', held' key' = if key' = key then some id else held key')
    (hlive : ∀ id', live' id' ↔ live id' ∨ id' = id) : HeldOnce held' live' where
  held_iff := fun id' => by
    rw [hlive,← h.held_iff id']
    constructor
    · rintro ⟨key',hkey'⟩
      rw [hheld] at hkey'
      split at hkey'
      · exact .inr (Option.some.inj hkey').symm
      · exact .inl ⟨key',hkey'⟩
    · rintro (⟨key',hkey'⟩ | rfl)
      · have hk : key' ≠ key := fun hk => by rw [hk,hkey] at hkey'; cases hkey'
        exact ⟨key',by rw [hheld,if_neg hk,hkey']⟩
      · exact ⟨key,by rw [hheld,if_pos rfl]⟩
  once := fun {key₁ key₂ id'} h₁ h₂ => by
    have hunheld : ∀ {key'}, held key' ≠ some id := fun {key'} hkey' =>
      hid ((h.held_iff id).mp ⟨key',hkey'⟩)
    rw [hheld] at h₁ h₂
    split at h₁ <;> split at h₂
    · simp only [*]
    · exact absurd (h₂.trans h₁.symm) hunheld
    · exact absurd (h₁.trans h₂.symm) hunheld
    · exact h.once h₁ h₂

end HeldOnce

namespace LeaseStore

def leaseAt? (s : LeaseStore) (key : String) : Option Int :=
  (s.entries.get? key).bind StoredValue.lease

def leaseIds (s : LeaseStore) : List Int := s.leases.map Lease.id

def lease? (s : LeaseStore) (id : Int) : Option Lease := s.leases.find? fun l => l.id = id

/-- Keys and leases correspond one to one, and ids are counted from one. -/
structure Linked (s : LeaseStore) : Prop where
  held : HeldOnce s.leaseAt? (· ∈ s.leaseIds)
  nodup : s.leaseIds.Nodup
  range : ∀ id ∈ s.leaseIds, 1 ≤ id ∧ id ≤ s.lastLease
  counted : 0 ≤ s.lastLease

variable {s s' : LeaseStore} {key : String} {id : Int} {now t : Instant}

theorem linked_empty : empty.Linked where
  held := .empty (fun _ => rfl) (fun _ => List.not_mem_nil)
  nodup := List.nodup_nil
  range := by simp [leaseIds,empty]
  counted := Int.le_refl 0

theorem leaseAt?_of_get? {e : StoredValue} (he : s.entries.get? key = some e) :
    s.leaseAt? key = e.lease := by
  rw [leaseAt?,he,Option.bind_some]

theorem leaseAt?_of_not_contains (h : s.entries.contains key = false) :
    s.leaseAt? key = none := by
  rw [leaseAt?,(Dictionary.get?_eq_none_iff ..).mpr h,Option.bind_none]

/-- A lease that is renewed keeps its id. -/
theorem leaseIds_refreshed (s : LeaseStore) (id : Int) (f : Lease → Instant) :
    LeaseStore.leaseIds
      { s with leases := s.leases.map fun l =>
          if l.id = id then { l with expiresAt := f l } else l } = s.leaseIds := by
  rw [leaseIds,leaseIds,List.map_map]
  refine List.map_congr_left fun l _ => ?_
  by_cases hl : l.id = id <;> simp [hl]

namespace Linked

theorem lease?_eq_some_iff (h : s.Linked) {l : Lease} :
    s.lease? id = some l ↔ l ∈ s.leases ∧ l.id = id := by
  constructor
  · intro hl
    exact ⟨List.mem_of_find?_eq_some hl,by simpa using List.find?_some hl⟩
  · rintro ⟨hmem,rfl⟩
    cases hfound : s.lease? l.id with
    | none =>
      have hnot := List.find?_eq_none.mp hfound l hmem
      simp at hnot
    | some l' =>
      have hmem' := List.mem_of_find?_eq_some hfound
      have hid : l'.id = l.id := by simpa using List.find?_some hfound
      exact congrArg some (List.inj_on_of_nodup_map h.nodup hmem' hmem hid)

theorem exists_lease (h : s.Linked) (hkey : s.leaseAt? key = some id) :
    ∃ l, s.lease? id = some l := by
  obtain ⟨l,hl,hid⟩ := List.mem_map.mp ((h.held.held_iff id).mp ⟨key,hkey⟩)
  exact ⟨l,h.lease?_eq_some_iff.mpr ⟨hl,hid⟩⟩

/-- Keys and their leases go together. -/
theorem restrict (h : s.Linked) (p : Int → Bool)
    (hat : ∀ key, s'.leaseAt? key = (s.leaseAt? key).filter p)
    (hids : s'.leaseIds = s.leaseIds.filter p) (hlast : s'.lastLease = s.lastLease) :
    s'.Linked where
  held := h.held.restrict (fun id => p id) (fun key id => by rw [hat,Option.filter_eq_some_iff])
    (fun id => by rw [hids,List.mem_filter])
  nodup := hids ▸ h.nodup.filter p
  range := fun id hid => by
    rw [hids,List.mem_filter] at hid
    exact hlast ▸ h.range id hid.1
  counted := hlast ▸ h.counted

theorem congr (h : s.Linked) (hat : ∀ key, s'.leaseAt? key = s.leaseAt? key)
    (hids : s'.leaseIds = s.leaseIds) (hlast : s'.lastLease = s.lastLease) : s'.Linked where
  held := h.held.congr hat (fun id => by rw [hids])
  nodup := hids ▸ h.nodup
  range := by rw [hids,hlast]; exact h.range
  counted := hlast ▸ h.counted

end Linked

def endedIds (s : LeaseStore) (now : Instant) : List Int :=
  (s.leases.filter (Lease.isOver now)).map Lease.id

theorem Linked.mem_endedIds_iff (h : s.Linked) (now : Instant) {l : Lease}
    (hl : s.lease? id = some l) : id ∈ s.endedIds now ↔ l.expiresAt ≤ now := by
  obtain ⟨hmem,rfl⟩ := h.lease?_eq_some_iff.mp hl
  simp only [endedIds,List.mem_map,List.mem_filter,Lease.isOver,decide_eq_true_eq]
  constructor
  · rintro ⟨l',⟨hmem',hover⟩,hid⟩
    rwa [List.inj_on_of_nodup_map h.nodup hmem' hmem hid] at hover
  · exact fun hover => ⟨l,⟨hmem,hover⟩,rfl⟩

theorem get?_entries_expire (s : LeaseStore) (now : Instant) (key : String) :
    (s.expire now).entries.get? key =
      (s.entries.get? key).filter fun e => !e.lease.any (s.endedIds now).contains :=
  Dictionary.get?_filter ..

theorem endedIds_expire (s : LeaseStore) (now : Instant) : (s.expire now).endedIds now = [] := by
  rw [endedIds,expire,List.filter_filter]
  simp

/-- What has run out is dropped once. -/
theorem expire_expire (s : LeaseStore) (now : Instant) :
    (s.expire now).expire now = s.expire now := by
  have hleases : ((s.expire now).expire now).leases = (s.expire now).leases := by
    simp only [expire,List.filter_filter,Bool.and_self]
  have hentries : ((s.expire now).expire now).entries = (s.expire now).entries := by
    apply Dictionary.ext_get?
    intro key
    have hkept : ∀ lease : Option Int, lease.any ([] : List Int).contains = false := fun lease => by
      cases lease <;> rfl
    rw [get?_entries_expire,endedIds_expire]
    simp only [hkept,Bool.not_false]
    cases (s.expire now).entries.get? key <;> rfl
  calc (s.expire now).expire now
      = ⟨((s.expire now).expire now).entries,((s.expire now).expire now).leases,s.lastLease⟩ := rfl
    _ = s.expire now := by rw [hleases,hentries]; rfl

theorem leaseAt?_expire (s : LeaseStore) (now : Instant) (key : String) :
    (s.expire now).leaseAt? key =
      (s.leaseAt? key).filter fun id => !(s.endedIds now).contains id := by
  rw [leaseAt?,leaseAt?,get?_entries_expire]
  cases s.entries.get? key with
  | none => rfl
  | some e =>
    cases hlease : e.lease with
    | none => simp [hlease,Option.filter_some]
    | some id =>
      by_cases hended : id ∈ s.endedIds now
      · simp [hlease,hended,Option.filter_some]
      · simp [hlease,hended,Option.filter_some]

theorem Linked.leaseIds_expire (h : s.Linked) (now : Instant) :
    (s.expire now).leaseIds = s.leaseIds.filter fun id => !(s.endedIds now).contains id := by
  have hkept : ∀ l ∈ s.leases,
      (!Lease.isOver now l) = !(s.endedIds now).contains l.id := by
    intro l hl
    have hended := h.mem_endedIds_iff now (h.lease?_eq_some_iff.mpr ⟨hl,rfl⟩)
    rw [Bool.not_inj_iff,Bool.eq_iff_iff,List.contains_iff_mem,hended,Lease.isOver,
      decide_eq_true_iff]
  rw [leaseIds,leaseIds,List.filter_map]
  exact congrArg (List.map Lease.id) (List.filter_congr hkept)

theorem Linked.expire (h : s.Linked) (now : Instant) : (s.expire now).Linked :=
  h.restrict _ (s.leaseAt?_expire now) (h.leaseIds_expire now) rfl

namespace Linked

theorem fresh (h : s.Linked) : s.lastLease+1 ∉ s.leaseIds := by
  intro hmem
  have hle := (h.range _ hmem).2
  omega

theorem create (h : s.Linked) (hkey : s.entries.contains key = false) (value : Octets) :
    LeaseStore.Linked { s with entries := s.entries.insert key ⟨value,none⟩ } := by
  refine h.congr (fun key' => ?_) rfl rfl
  by_cases hk : key' = key
  · rw [hk,leaseAt?_of_not_contains hkey]
    simp [leaseAt?]
  · simp [leaseAt?,hk]

theorem createWithLease (h : s.Linked) (hkey : s.entries.contains key = false) (value : Octets)
    (ttl : Duration) (t : Instant) :
    LeaseStore.Linked
      { entries := s.entries.insert key ⟨value,some (s.lastLease+1)⟩
        leases := s.leases ++ [⟨s.lastLease+1,ttl,t⟩]
        lastLease := s.lastLease+1 } := by
  have hcounted := h.counted
  have hids : LeaseStore.leaseIds
      { entries := s.entries.insert key ⟨value,some (s.lastLease+1)⟩
        leases := s.leases ++ [⟨s.lastLease+1,ttl,t⟩]
        lastLease := s.lastLease+1 } = s.leaseIds ++ [s.lastLease+1] := by simp [leaseIds]
  refine ⟨h.held.extend (leaseAt?_of_not_contains hkey) h.fresh (fun key' => ?_)
    (fun id => by rw [hids,List.mem_append,List.mem_singleton]),?_,fun id hid => ?_,?_⟩
  · by_cases hk : key' = key <;> simp [leaseAt?,hk]
  · rw [hids]
    exact List.nodup_append.mpr ⟨h.nodup,List.nodup_singleton _,fun id hid id' hid' heq =>
      h.fresh (by rwa [← List.mem_singleton.mp hid',← heq])⟩
  · rw [hids,List.mem_append,List.mem_singleton] at hid
    change 1 ≤ id ∧ id ≤ s.lastLease+1
    rcases hid with hid | rfl
    · have hrange := h.range id hid
      omega
    · omega
  · change 0 ≤ s.lastLease+1
    omega

theorem update (h : s.Linked) (key : String) (value : Octets) :
    LeaseStore.Linked
      { s with entries := s.entries.modify key fun e => { e with value := value } } := by
  refine h.congr (fun key' => ?_) rfl rfl
  by_cases hk : key' = key
  · cases he : s.entries.get? key <;> simp [leaseAt?,hk,he]
  · simp [leaseAt?,hk]

theorem refresh (h : s.Linked) (id : Int) (f : Lease → Instant) :
    LeaseStore.Linked
      { s with leases := s.leases.map fun l =>
          if l.id = id then { l with expiresAt := f l } else l } := by
  exact h.congr (fun _ => rfl) (s.leaseIds_refreshed id f) rfl

theorem delete (h : s.Linked) (key : String) :
    LeaseStore.Linked
      { s with
        entries := s.entries.erase key
        leases := s.leases.filter fun l => some l.id ≠ s.leaseAt? key } := by
  refine h.restrict (fun id => some id ≠ s.leaseAt? key) (fun key' => ?_) ?_ rfl
  · by_cases hk : key' = key
    · subst hk
      cases hlease : s.leaseAt? key' <;> simp [leaseAt?,Option.filter_some]
    · have hsame : LeaseStore.leaseAt? { s with
          entries := s.entries.erase key
          leases := s.leases.filter fun l => some l.id ≠ s.leaseAt? key } key' =
            s.leaseAt? key' := by simp [leaseAt?,hk]
      rw [hsame]
      cases hlease : s.leaseAt? key' with
      | none => rfl
      | some id =>
        have hne : some id ≠ s.leaseAt? key := fun heq => hk (h.held.once hlease heq.symm)
        rw [Option.filter_some,if_pos (by simpa using hne)]
  · rw [leaseIds,leaseIds,List.filter_map]
    rfl

end Linked
end LeaseStore
end ClusterFramework
