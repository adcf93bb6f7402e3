import ClusterFramework.Proofs.Store.Listing

/-! Putting a value under a key never fails. A key that can be seen keeps the lease that it hangs
on; any other key, whether it was never there, was deleted or has run out, begins anew without
one. Nothing else that can be seen is touched. -/
namespace ClusterFramework
namespace LeaseStore

variable {s : LeaseStore} {now : Instant} {key : String}

def putting (s : LeaseStore) (key : String) (value : Octets) : LeaseStore :=
  if s.entries.contains key then
    { s with entries := s.entries.modify key fun e => { e with value := value } }
  else { s with entries := s.entries.insert key ⟨value,none⟩ }

theorem put_eq (s : LeaseStore) (now : Instant) (key : String) (value : Octets) :
    s.put now key value = (.ok (),(s.expire now).putting key value) := by
  rw [put,update,act]
  by_cases hkey : (s.expire now).entries.contains key
  · simp [putting,hkey]
  · simp [putting,hkey,create,act,expire_expire]

theorem lastLease_putting (s : LeaseStore) (key : String) (value : Octets) :
    (s.putting key value).lastLease = s.lastLease := by
  rw [putting]
  split <;> rfl

theorem Linked.putting (h : s.Linked) (key : String) (value : Octets) :
    (s.putting key value).Linked := by
  rw [LeaseStore.putting]
  split
  · exact h.update key value
  · rename_i hkey
    exact h.create (Bool.eq_false_iff.mpr hkey) value

theorem view_putting (s : LeaseStore) (key : String) (value : Octets) :
    (s.putting key value).view =
      s.view.insert key ⟨value,(s.view.get? key).bind Holding.lease⟩ := by
  rw [putting]
  split
  · rename_i hkey
    obtain ⟨h,hh⟩ := (Dictionary.contains_iff ..).mp (s.contains_view key ▸ hkey)
    rw [view_update]
    apply Dictionary.ext_get?
    intro key'
    by_cases hk : key' = key <;> simp only [Dictionary.get?_modify,Dictionary.get?_insert,hk,hh,
      if_true,if_false,Option.map_some,Option.bind_some]
  · rename_i hkey
    have hnone : s.view.get? key = none := by
      rw [Dictionary.get?_eq_none_iff,contains_view]
      exact Bool.eq_false_iff.mpr hkey
    rw [view_create,hnone,Option.bind_none]

theorem Linked.visible_put (hs : s.Linked) (now : Instant) (key : String) (value : Octets) :
    (s.put now key value).2.visible now =
      (s.visible now).insert key ⟨value,((s.visible now).get? key).bind Holding.lease⟩ := by
  rw [put_eq,visible,view_putting,hs.view_expire]
  have hlive : ∀ {key h}, (s.visible now).get? key = some h → h.isOver now = false := fun hget =>
    (get?_visible_eq_some_iff.mp hget).2
  apply Dictionary.ext_get?
  intro key'
  rw [Dictionary.get?_filter,Dictionary.get?_insert]
  by_cases hk : key' = key
  · rw [if_pos hk]
    cases hget : (s.visible now).get? key with
    | none => rfl
    | some h =>
      have hover : Holding.isOver now ⟨value,h.lease⟩ = h.isOver now := rfl
      rw [Option.bind_some,Option.filter_some,hover,hlive hget]
      rfl
  · rw [if_neg hk]
    cases hget : (s.visible now).get? key' with
    | none => rfl
    | some h =>
      rw [Option.filter_some,hlive hget]
      rfl

theorem Linked.read_eq_ok_iff (hs : s.Linked) {v : Octets} :
    (s.read now key).1 = .ok v ↔ ∃ lease, (s.visible now).get? key = some ⟨v,lease⟩ := by
  rw [← shows_iff_read,shows_iff,← hs.view_expire,get?_view]
  cases (s.expire now).entries.get? key with
  | none => simp
  | some e => simp [holding]

theorem Linked.put (hs : s.Linked) (now : Instant) (key : String) (value : Octets) :
    (s.put now key value).2.Linked := by
  rw [put_eq]
  exact (hs.expire now).putting key value

/-- Whatever has happened to a store, a value can be put under any key, and is there at once. All
else that can be seen, then or later, stays as it is. A key that could be seen keeps its lease with
the end of it, any other one has none, and no lease is handed out. -/
theorem put_of_actions (xs : List (Instant × StoreAction)) (now : Instant) (key : String)
    (value : Octets) :
    let s := empty.after xs
    let s' := (s.put now key value).2
    (s.put now key value).1 = .ok () ∧ (s'.read now key).1 = .ok value ∧
      (∀ other, other ≠ key → ∀ t, now ≤ t →
        (s'.visible t).get? other = (s.visible t).get? other) ∧
      s'.size now = s.size now+(if (s.visible now).contains key then 0 else 1) ∧
      (∀ h, (s.visible now).get? key = some h →
        (s'.visible now).get? key = some { h with value := value }) ∧
      ((s.visible now).get? key = none → (s'.visible now).get? key = some ⟨value,none⟩) ∧
      s'.lastLease = s.lastLease ∧
      ∀ k v, (s.read now k).1 = .ok v ↔
        ∃ lease, (s.visible now).get? k = some ⟨v,lease⟩ := by
  intro s s'
  have hs : s.Linked := linked_empty.after xs
  have hs' : s'.Linked := hs.put now key value
  have hvisible : s'.visible now = _ := hs.visible_put now key value
  refine ⟨?_,?_,fun other hother t ht => ?_,?_,fun h hget => ?_,fun hget => ?_,?_,
    fun k v => hs.read_eq_ok_iff⟩
  · rw [put_eq]
  · rw [hs'.read_eq_ok_iff,hvisible,Dictionary.get?_insert,if_pos rfl]
    exact ⟨_,rfl⟩
  · rw [s'.visible_of_le ht,s.visible_of_le ht,hvisible]
    simp [hother]
  · rw [hs'.size_eq,hs.size_eq,hvisible,Dictionary.size_insert]
  · rw [hvisible,Dictionary.get?_insert,if_pos rfl,hget,Option.bind_some]
  · rw [hvisible,Dictionary.get?_insert,if_pos rfl,hget,Option.bind_none]
  · exact (congrArg (fun a => a.2.lastLease) (put_eq s now key value)).trans
      (lastLease_putting ..)

/-- The lease runs out at five: a value put before keeps it, one that is put then does not. -/
example :
    let s := (empty.createWithLease 0 "a" [1] ⟨5,by decide⟩).2
    ((s.put 4 "a" [2]).2.visible 4).get? "a" = some ⟨[2],some ⟨1,⟨5,by decide⟩,5⟩⟩ ∧
      ((s.put 5 "a" [2]).2.visible 5).get? "a" = some ⟨[2],none⟩ := by
  decide +kernel

end LeaseStore
end ClusterFramework
