import ClusterFramework.Proofs.Store.Links

/-! What can be seen of a store: for each key its value and the lease that it hangs on. What
has run out is not seen, whether it has been dropped or not. -/
namespace ClusterFramework

/-- A value together with the lease that it hangs on. -/
structure Holding where
  value : Octets
  lease : Option Lease
  deriving DecidableEq,Repr

namespace Holding

def isOver (now : Instant) (h : Holding) : Bool := h.lease.any fun l => l.expiresAt ≤ now

def leaseId? (h : Holding) : Option Int := h.lease.map Lease.id

/-- Moves the end of a lease. -/
def renew (id : Int) (f : Lease → Instant) (h : Holding) : Holding :=
  { h with lease := h.lease.map fun l => if l.id = id then { l with expiresAt := f l } else l }

@[simp] theorem leaseId?_renew (id : Int) (f : Lease → Instant) (h : Holding) :
    (h.renew id f).leaseId? = h.leaseId? := by
  cases hl : h.lease with
  | none => simp [renew,leaseId?,hl]
  | some l => by_cases hid : l.id = id <;> simp [renew,leaseId?,hl,hid]

theorem isOver_mono {h : Holding} {now t : Instant} (ht : now ≤ t) (hover : h.isOver now) :
    h.isOver t := by
  obtain ⟨l,hl,hle⟩ := (Option.any_eq_true ..).mp hover
  refine (Option.any_eq_true ..).mpr ⟨l,hl,?_⟩
  exact decide_eq_true (Int.le_trans (of_decide_eq_true hle) ht)

end Holding

namespace LeaseStore

def holding (s : LeaseStore) (e : StoredValue) : Holding := ⟨e.value,e.lease.bind s.lease?⟩

def view (s : LeaseStore) : Dictionary Holding := s.entries.map fun _ e => s.holding e

/-- What can be seen of the store at a time. -/
def visible (s : LeaseStore) (now : Instant) : Dictionary Holding :=
  s.view.filter fun _ h => !h.isOver now

variable {s : LeaseStore} {key : String} {id : Int} {now t : Instant}

@[simp] theorem get?_view (s : LeaseStore) (key : String) :
    s.view.get? key = (s.entries.get? key).map s.holding := Dictionary.get?_map ..

@[simp] theorem contains_view (s : LeaseStore) (key : String) :
    s.view.contains key = s.entries.contains key := Dictionary.contains_map ..

@[simp] theorem size_view (s : LeaseStore) : s.view.size = s.entries.size :=
  Dictionary.size_map ..

theorem leaseId?_holding (h : s.Linked) {e : StoredValue} (he : s.entries.get? key = some e) :
    (s.holding e).leaseId? = e.lease := by
  cases hlease : e.lease with
  | none => simp [holding,Holding.leaseId?,hlease]
  | some id =>
    obtain ⟨l,hl⟩ := h.exists_lease ((leaseAt?_of_get? he).trans hlease)
    have hid := (h.lease?_eq_some_iff.mp hl).2
    simp [holding,Holding.leaseId?,hlease,hl,hid]

/-- The leases are those that can be seen at the keys. -/
theorem Linked.mem_leaseIds_iff (h : s.Linked) :
    id ∈ s.leaseIds ↔ ∃ key, (s.view.get? key).bind Holding.leaseId? = some id := by
  rw [← h.held.held_iff]
  refine exists_congr fun key => ?_
  rw [get?_view]
  cases he : s.entries.get? key with
  | none => simp [leaseAt?,he]
  | some e => simp [leaseAt?_of_get? he,leaseId?_holding h he]

/-- What is dropped cannot be seen any more, and nothing else is dropped. -/
theorem Linked.view_expire (h : s.Linked) (now : Instant) :
    (s.expire now).view = s.visible now := by
  apply Dictionary.ext_get?
  intro key
  rw [get?_view,get?_entries_expire,visible,Dictionary.get?_filter,get?_view]
  cases he : s.entries.get? key with
  | none => rfl
  | some e =>
    cases hlease : e.lease with
    | none => simp [hlease,holding,Holding.isOver,Option.filter_some]
    | some id =>
      obtain ⟨l,hl⟩ := h.exists_lease ((leaseAt?_of_get? he).trans hlease)
      have hended := h.mem_endedIds_iff now hl
      by_cases hover : l.expiresAt ≤ now
      · have hmem := hended.mpr hover
        simp [hlease,holding,hl,Holding.isOver,hover,hmem,Option.filter_some]
      · have hmem : id ∉ s.endedIds now := fun hmem => hover (hended.mp hmem)
        obtain ⟨hl₁,hl₂⟩ := h.lease?_eq_some_iff.mp hl
        have hkept : (s.expire now).lease? id = some l :=
          (h.expire now).lease?_eq_some_iff.mpr
            ⟨List.mem_filter.mpr ⟨hl₁,by simp [Lease.isOver,hover]⟩,hl₂⟩
        simp [hlease,holding,hl,Holding.isOver,hover,hmem,hkept,Option.filter_some]

theorem visible_of_le (s : LeaseStore) (ht : now ≤ t) :
    s.visible t = (s.visible now).filter fun _ h => !h.isOver t := by
  apply Dictionary.ext_get?
  intro key
  simp only [visible,Dictionary.get?_filter]
  cases s.view.get? key with
  | none => rfl
  | some h =>
    by_cases hover : h.isOver now
    · simp [hover,Holding.isOver_mono ht hover,Option.filter_some]
    · simp [hover,Option.filter_some]

/-- What was dropped earlier would not be seen later. -/
theorem Linked.visible_expire (h : s.Linked) (ht : now ≤ t) :
    (s.expire now).visible t = s.visible t := by
  rw [visible,h.view_expire,← s.visible_of_le ht]

theorem get?_visible_eq_some_iff {h : Holding} :
    (s.visible now).get? key = some h ↔ s.view.get? key = some h ∧ h.isOver now = false := by
  rw [visible,Dictionary.get?_filter,Option.filter_eq_some_iff,Bool.not_eq_true']

theorem Linked.size_eq (hs : s.Linked) (now : Instant) : s.size now = (s.visible now).size := by
  rw [size,← size_view,hs.view_expire]

theorem view_create (s : LeaseStore) (key : String) (value : Octets) :
    view { s with entries := s.entries.insert key ⟨value,none⟩ } =
      s.view.insert key ⟨value,none⟩ := Dictionary.map_insert ..

theorem Linked.view_createWithLease (h : s.Linked) (key : String) (value : Octets)
    (ttl : Duration) (t : Instant) :
    view
      { entries := s.entries.insert key ⟨value,some (s.lastLease+1)⟩
        leases := s.leases ++ [⟨s.lastLease+1,ttl,t⟩]
        lastLease := s.lastLease+1 } =
      s.view.insert key ⟨value,some ⟨s.lastLease+1,ttl,t⟩⟩ := by
  have hnone : s.lease? (s.lastLease+1) = none := by
    rw [lease?,List.find?_eq_none]
    intro l hl hid
    exact h.fresh (List.mem_map.mpr ⟨l,hl,of_decide_eq_true hid⟩)
  generalize hs' : LeaseStore.mk _ _ _ = s'
  have hentries : s'.entries = s.entries.insert key ⟨value,some (s.lastLease+1)⟩ := by rw [← hs']
  have hlease : ∀ id, s'.lease? id =
      (s.lease? id).or ([⟨s.lastLease+1,ttl,t⟩].find? fun l : Lease => l.id = id) := by
    intro id
    rw [← hs',lease?,List.find?_append,lease?]
  apply Dictionary.ext_get?
  intro key'
  by_cases hk : key' = key
  · simp [hk,hentries,holding,hlease,hnone]
  · cases he : s.entries.get? key' with
    | none => simp [hk,he,hentries]
    | some e =>
      cases hid : e.lease with
      | none => simp [hk,he,hentries,hid,holding]
      | some id =>
        obtain ⟨l,hl⟩ := h.exists_lease ((leaseAt?_of_get? he).trans hid)
        simp [hk,he,hentries,hid,holding,hlease,hl]

theorem view_update (s : LeaseStore) (key : String) (value : Octets) :
    view { s with entries := s.entries.modify key fun e => { e with value := value } } =
      s.view.modify key fun h => { h with value := value } := by
  have hsame : holding { s with entries := s.entries.modify key fun e =>
      { e with value := value } } = s.holding := rfl
  apply Dictionary.ext_get?
  intro key'
  rw [get?_view,hsame,Dictionary.get?_modify,Dictionary.get?_modify,get?_view]
  by_cases hk : key' = key
  · rw [if_pos hk,if_pos hk,Option.map_map,Option.map_map]
    rfl
  · rw [if_neg hk,if_neg hk]

theorem lease?_refresh (s : LeaseStore) (id id' : Int) (f : Lease → Instant) :
    lease? { s with leases := s.leases.map fun l =>
        if l.id = id then { l with expiresAt := f l } else l } id' =
      (s.lease? id').map fun l => if l.id = id then { l with expiresAt := f l } else l := by
  have hid : ∀ l : Lease, (if l.id = id then { l with expiresAt := f l } else l).id = l.id := by
    intro l
    by_cases hl : l.id = id <;> simp [hl]
  rw [lease?,lease?,List.find?_map]
  simp only [Function.comp_def,hid]

theorem view_refresh (s : LeaseStore) (id : Int) (f : Lease → Instant) :
    view { s with leases := s.leases.map fun l =>
        if l.id = id then { l with expiresAt := f l } else l } =
      s.view.map fun _ h => h.renew id f := by
  apply Dictionary.ext_get?
  intro key
  cases he : s.entries.get? key with
  | none => simp [he]
  | some e =>
    cases hlease : e.lease with
    | none => simp [he,holding,hlease,Holding.renew]
    | some id' => simp [he,holding,hlease,Holding.renew,lease?_refresh]

theorem Linked.view_delete (h : s.Linked) (key : String) :
    view { s with
        entries := s.entries.erase key
        leases := s.leases.filter fun l => some l.id ≠ s.leaseAt? key } =
      s.view.erase key := by
  generalize hs' : LeaseStore.mk _ _ _ = s'
  have hentries : s'.entries = s.entries.erase key := by rw [← hs']
  have hlinked : s'.Linked := hs' ▸ h.delete key
  have hleases : s'.leases = s.leases.filter fun l => some l.id ≠ s.leaseAt? key := by rw [← hs']
  apply Dictionary.ext_get?
  intro key'
  by_cases hk : key' = key
  · simp [hk,hentries]
  · cases he : s.entries.get? key' with
    | none => simp [hk,he,hentries]
    | some e =>
      cases hlease : e.lease with
      | none => simp [hk,he,hentries,hlease,holding]
      | some id =>
        have hat := (leaseAt?_of_get? he).trans hlease
        obtain ⟨l,hl⟩ := h.exists_lease hat
        obtain ⟨hmem,rfl⟩ := h.lease?_eq_some_iff.mp hl
        have hother : some l.id ≠ s.leaseAt? key := fun heq => hk (h.held.once hat heq.symm)
        have hkept : s'.lease? l.id = some l := by
          rw [hlinked.lease?_eq_some_iff,hleases]
          exact ⟨List.mem_filter.mpr ⟨hmem,decide_eq_true hother⟩,rfl⟩
        simp [hk,he,hentries,hlease,holding,hl,hkept]

end LeaseStore
end ClusterFramework
