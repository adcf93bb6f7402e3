import ClusterFramework.Proofs.Store.Leases

/-! What a listing of a store shows. A text begins with another exactly if its octets do, so that
a scan of the octets lists the keys that can be seen and begin so, and no others. -/
namespace ClusterFramework

namespace Utf8

theorem encode_append (s t : String) : encode (s ++ t) = encode s ++ encode t := by
  simp [encode]

/-- What goes on with the octets of characters goes on with those characters. -/
theorem exists_append_of_utf8Encode {cs ds : List Char} {b : ByteArray}
    (h : cs.utf8Encode ++ b = ds.utf8Encode) : ∃ rest, ds = cs ++ rest := by
  induction cs generalizing ds with
  | nil => exact ⟨ds,rfl⟩
  | cons c cs ih =>
    have hfirst : ds.utf8Encode.utf8DecodeChar? 0 = some c := by
      rw [← h,List.utf8Encode_cons,ByteArray.append_assoc]
      exact List.utf8DecodeChar?_utf8Encode_singleton_append
    cases ds with
    | nil => exact nomatch hfirst
    | cons d ds =>
      rw [List.utf8Encode_cons,List.utf8DecodeChar?_utf8Encode_singleton_append] at hfirst
      cases hfirst
      rw [List.utf8Encode_cons,ByteArray.append_assoc,List.utf8Encode_cons (l := ds)] at h
      obtain ⟨rest,rfl⟩ := ih (ByteArray.append_right_inj _ |>.mp h)
      exact ⟨rest,rfl⟩

theorem encode_prefix_iff {s t : String} : encode s <+: encode t ↔ ∃ rest, t = s ++ rest := by
  constructor
  · rintro ⟨b,hb⟩
    have h : s.toList.utf8Encode ++ ⟨b.toArray⟩ = t.toList.utf8Encode := by
      rw [String.utf8Encode_toList,String.utf8Encode_toList]
      exact ByteArray.ext (Array.ext' (by simpa [encode] using hb))
    obtain ⟨rest,hrest⟩ := exists_append_of_utf8Encode h
    refine ⟨String.ofList rest,?_⟩
    rw [← String.toList_inj,String.toList_append,hrest,String.toList_ofList]
  · rintro ⟨rest,rfl⟩
    exact ⟨encode rest,(encode_append s rest).symm⟩

end Utf8

namespace LeaseStore

variable {s : LeaseStore} {now : Instant} {key start : String} {value : Octets}

theorem startsWith_iff_append : startsWith key start ↔ ∃ rest, key = start ++ rest := by
  rw [startsWith_iff,Utf8.encode_prefix_iff]

/-- A key shows its value as long as no lease that it hangs on is over. -/
def Shows (s : LeaseStore) (now : Instant) (key : String) (value : Octets) : Prop :=
  ∃ e, s.entries.get? key = some e ∧ e.value = value ∧
    ∀ id ∈ e.lease, ∀ l ∈ s.leases, l.id = id → now < l.expiresAt

theorem get?_entries_expire_eq_some_iff {e : StoredValue} :
    (s.expire now).entries.get? key = some e ↔ s.entries.get? key = some e ∧
      ∀ id ∈ e.lease, ∀ l ∈ s.leases, l.id = id → now < l.expiresAt := by
  rw [get?_entries_expire,Option.filter_eq_some_iff]
  refine and_congr_right fun _ => ?_
  cases e.lease with
  | none => simp
  | some id =>
    simp only [Option.any_some,not_contains_endedIds_iff,Option.mem_def,Option.some.injEq,
      forall_eq',Int.not_le]

theorem shows_iff : s.Shows now key value ↔
    ∃ e, (s.expire now).entries.get? key = some e ∧ e.value = value := by
  simp only [Shows,get?_entries_expire_eq_some_iff,and_right_comm,and_assoc]

theorem shows_iff_read : s.Shows now key value ↔ (s.read now key).1 = .ok value := by
  rw [shows_iff,read,act]
  cases (s.expire now).entries.get? key with
  | none => simp
  | some e => simp

theorem mem_scan_iff {d : Dictionary StoredValue} : (key,value) ∈ scan d start ↔
    (∃ e, d.get? key = some e ∧ e.value = value) ∧ ∃ rest, key = start ++ rest := by
  simp only [scan_eq_filter,List.mem_map,List.mem_filter,Prod.exists,Prod.mk.injEq,
    Dictionary.mem_entries_iff,startsWith_iff_append]
  constructor
  · rintro ⟨_,e,⟨he,hrest⟩,rfl,rfl⟩
    exact ⟨⟨e,he,rfl⟩,hrest⟩
  · rintro ⟨⟨e,he,rfl⟩,hrest⟩
    exact ⟨key,e,⟨he,hrest⟩,rfl,rfl⟩

theorem pairwise_scan (d : Dictionary StoredValue) (start : String) :
    ((scan d start).map Prod.fst).Pairwise fun a b => Utf8.encode a < Utf8.encode b := by
  rw [scan_eq_filter,List.pairwise_map,List.pairwise_map]
  exact d.ascending.filter _

theorem scan_eq_filter_scan (d : Dictionary StoredValue) (start : String) :
    scan d start = (scan d "").filter fun e => startsWith e.1 start := by
  have hall : ∀ e ∈ d.entries, startsWith e.1 "" := fun e _ =>
    startsWith_iff_append.mpr ⟨e.1,by simp⟩
  rw [scan_eq_filter,scan_eq_filter,List.filter_eq_self.mpr hall,List.filter_map]
  rfl

/-- A listing shows every key that can be seen and begins with the text, with its value, once and
in the order of the octets, and nothing else: it is what is left of the listing of the whole
store without the keys that do not begin so. -/
theorem readAll_listed (s : LeaseStore) (now : Instant) (start : String) :
    ∃ es, (s.readAll now start).1 = .ok es ∧
      (∀ key value, (key,value) ∈ es ↔ s.Shows now key value ∧ ∃ rest, key = start ++ rest) ∧
      (es.map Prod.fst).Pairwise (fun a b => Utf8.encode a < Utf8.encode b) ∧
      (∀ key value, s.Shows now key value ↔ (s.read now key).1 = .ok value) ∧
      ∃ all, (s.readAll now "").1 = .ok all ∧ es = all.filter fun e => startsWith e.1 start := by
  refine ⟨scan (s.expire now).entries start,rfl,fun key value => ?_,pairwise_scan _ start,
    fun key value => shows_iff_read,scan (s.expire now).entries "",rfl,scan_eq_filter_scan _ start⟩
  rw [mem_scan_iff,shows_iff]

end LeaseStore
end ClusterFramework
