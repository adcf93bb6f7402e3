import ClusterFramework.Dictionary
import Mathlib.Data.List.Sort

/-! A finite map is determined by what stands under each key, and every operation is known by
what it does to that. -/
namespace ClusterFramework
namespace Dictionary

variable {α β κ : Type} [KeyOrder κ]

theorem nodup_keys (d : Dictionary α κ) : d.keys.Nodup :=
  List.pairwise_map.mpr (d.ascending.imp fun {e f} hbefore (heq : e.1 = f.1) =>
    before_irrefl f.1 (heq ▸ hbefore))

variable [DecidableEq κ]

theorem find?_eq_some_iff {k : κ} {v : α} {es : List (κ × α)}
    (h : es.Pairwise fun e f => before e.1 f.1) : find? k es = some v ↔ (k,v) ∈ es := by
  induction es with
  | nil => simp [find?]
  | cons e es ih =>
    obtain ⟨hhead,htail⟩ := List.pairwise_cons.mp h
    obtain ⟨k',v'⟩ := e
    by_cases hk : k' = k
    · subst hk
      have hnot : (k',v) ∉ es := fun hm => before_irrefl k' (hhead (k',v) hm)
      simp [find?,hnot,eq_comm]
    · simp [find?,hk,Ne.symm hk,ih htail]

theorem mem_entries_iff (d : Dictionary α κ) (k : κ) (v : α) :
    (k,v) ∈ d.entries ↔ d.get? k = some v := (find?_eq_some_iff d.ascending).symm

theorem mem_values_iff (d : Dictionary α κ) (v : α) : v ∈ d.values ↔ ∃ k, d.get? k = some v := by
  simp only [values,List.mem_map,Prod.exists,exists_eq_right,mem_entries_iff]

theorem contains_iff (d : Dictionary α κ) (k : κ) : d.contains k ↔ ∃ v, d.get? k = some v :=
  Option.isSome_iff_exists

@[simp] theorem contains_modify (d : Dictionary α κ) (k k' : κ) (f : α → α) :
    (d.modify k f).contains k' = d.contains k' := by
  rw [contains,get?_modify,contains]
  split
  · rw [Option.isSome_map]
  · rfl

/-- Changing a key that is not there changes nothing. -/
theorem modify_of_not_contains {d : Dictionary α κ} {k : κ} (h : d.contains k = false)
    (f : α → α) : d.modify k f = d := by
  have hne : ∀ e ∈ d.entries, e.1 ≠ k := by
    rintro ⟨k',v⟩ he rfl
    have hc := (d.contains_iff k').mpr ⟨v,(d.mem_entries_iff k' v).mp he⟩
    rw [h] at hc
    cases hc
  apply ext_entries
  have hmap : d.entries.map (fun e => (e.1,if e.1 = k then f e.2 else e.2)) = d.entries.map id :=
    List.map_congr_left fun e he => by simp [hne e he]
  simpa [modify,map] using hmap

theorem modify_modify (d : Dictionary α κ) (k : κ) (f g : α → α) :
    (d.modify k f).modify k g = d.modify k (g ∘ f) := by
  apply ext_entries
  simp only [modify,map,List.map_map]
  refine List.map_congr_left fun e _ => ?_
  by_cases he : e.1 = k <;> simp [he]

theorem ext_get? {d d' : Dictionary α κ} (h : ∀ k, d.get? k = d'.get? k) : d = d' := by
  apply ext_entries
  have hirrefl : Std.Irrefl fun e f : κ × α => before e.1 f.1 :=
    ⟨fun e => before_irrefl e.1⟩
  have hantisymm : Std.Antisymm fun e f : κ × α => before e.1 f.1 :=
    ⟨fun e _ hef hfe => absurd (before_trans hef hfe) (before_irrefl e.1)⟩
  apply List.Pairwise.eq_of_mem_iff d.ascending d'.ascending
  rintro ⟨k,v⟩
  rw [mem_entries_iff,mem_entries_iff,h]

@[simp] theorem get?_filter (d : Dictionary α κ) (p : κ → α → Bool) (k : κ) :
    (d.filter p).get? k = (d.get? k).filter (p k) := by
  apply Option.ext
  intro v
  rw [Option.filter_eq_some_iff,← mem_entries_iff,← mem_entries_iff]
  exact List.mem_filter

/-- A change of one key that neither the choice nor the reading sees is not seen. -/
theorem map_filter_modify (d : Dictionary α κ) (k : κ) {f : α → α}
    {p : κ → α → Bool} {g : κ → α → β} (hp : ∀ k v, p k (f v) = p k v)
    (hg : ∀ k v, g k (f v) = g k v) : ((d.modify k f).filter p).map g = (d.filter p).map g := by
  apply ext_get?
  intro k'
  simp only [get?_map,get?_filter,get?_modify]
  by_cases hk : k' = k
  · cases hv : d.get? k' with
    | none => simp [hk]
    | some v => by_cases hpv : p k' v <;> simp [← hk,hp,hg,hpv,Option.filter_some]
  · rw [if_neg hk]

theorem map_insert (d : Dictionary α κ) (f : κ → α → β) (k : κ) (v : α) :
    (d.insert k v).map f = (d.map f).insert k (f k v) := by
  apply ext_get?
  intro k'
  by_cases hk : k' = k <;> simp [hk]

@[simp] theorem contains_map (d : Dictionary α κ) (f : κ → α → β) (k : κ) :
    (d.map f).contains k = d.contains k := by
  simp [contains]

theorem get?_foldl_insert {es : List (κ × α)} (h : es.Pairwise fun e f => before e.1 f.1)
    (d : Dictionary α κ) (k : κ) :
    (es.foldl (fun d e => d.insert e.1 e.2) d).get? k = (find? k es).or (d.get? k) := by
  induction es generalizing d with
  | nil => rfl
  | cons e es ih =>
    obtain ⟨hhead,htail⟩ := List.pairwise_cons.mp h
    rw [List.foldl_cons,ih htail,find?,get?_insert]
    by_cases hk : e.1 = k
    · have hnone : find? k es = none := Option.eq_none_iff_forall_ne_some.mpr fun v hv =>
        before_irrefl k (hk ▸ hhead (k,v) ((find?_eq_some_iff htail).mp hv))
      simp [hk,hnone]
    · simp [hk,Ne.symm hk]

@[simp] theorem ofList_entries (d : Dictionary α κ) : ofList d.entries = d :=
  ext_get? fun k => by rw [ofList,get?_foldl_insert d.ascending,get?_empty,Option.or_none,get?]

theorem get?_foldl_erase (d : Dictionary α κ) (ks : List κ) (k : κ) :
    (ks.foldl erase d).get? k = if k ∈ ks then none else d.get? k := by
  induction ks generalizing d with
  | nil => rfl
  | cons k' ks ih =>
    rw [List.foldl_cons,ih,get?_erase]
    by_cases hk : k = k' <;> simp [hk]

theorem get?_eq_none_iff (d : Dictionary α κ) (k : κ) :
    d.get? k = none ↔ d.contains k = false := by
  simp [contains]

theorem mem_keys_iff (d : Dictionary α κ) (k : κ) : k ∈ d.keys ↔ ∃ v, d.get? k = some v := by
  simp only [keys,List.mem_map,Prod.exists,exists_and_right,exists_eq_right,mem_entries_iff]

theorem eq_of_perm {d d' : Dictionary α κ} (h : d.entries.Perm d'.entries) : d = d' := by
  apply ext_get?
  intro k
  apply Option.ext
  intro v
  rw [← mem_entries_iff,← mem_entries_iff,h.mem_iff]

theorem perm_erase {d : Dictionary α κ} {e : κ × α} {es : List (κ × α)}
    (h : d.entries.Perm (e :: es)) : (d.erase e.1).entries.Perm es := by
  have hkeys : (e.1 :: es.map Prod.fst).Nodup := (h.map Prod.fst).nodup_iff.mp d.nodup_keys
  have hes : ∀ f ∈ es, decide (f.1 ≠ e.1) = true := fun f hf => decide_eq_true fun heq =>
    (List.nodup_cons.mp hkeys).1 (heq ▸ List.mem_map_of_mem hf)
  have hkept := h.filter fun f => decide (f.1 ≠ e.1)
  rwa [List.filter_cons_of_neg (by simp),List.filter_eq_self.mpr hes] at hkept

theorem perm_insertEntry {k : κ} (v : α) {es : List (κ × α)}
    (h : k ∉ es.map Prod.fst) : (insertEntry k v es).Perm ((k,v) :: es) := by
  induction es with
  | nil => exact .refl _
  | cons e es ih =>
    rw [List.map_cons,List.mem_cons,not_or] at h
    rw [insertEntry,if_neg (Ne.symm h.1)]
    split
    · exact .refl _
    · exact ((ih h.2).cons e).trans (.swap (k,v) e es)

theorem perm_insert {d : Dictionary α κ} {k : κ} (h : k ∉ d.keys) (v : α) :
    (d.insert k v).entries.Perm ((k,v) :: d.entries) := perm_insertEntry v h

theorem insert_of_contains {d : Dictionary α κ} {k : κ} (h : d.contains k) (v : α) :
    d.insert k v = d.modify k fun _ => v := by
  obtain ⟨old,hold⟩ := (d.contains_iff k).mp h
  apply ext_get?
  intro k'
  by_cases hk : k' = k <;> simp [hk,hold]

theorem size_insert (d : Dictionary α κ) (k : κ) (v : α) :
    (d.insert k v).size = d.size+if d.contains k then 0 else 1 := by
  by_cases h : d.contains k
  · rw [insert_of_contains h,size_modify,if_pos h]
    rfl
  · have hk : k ∉ d.keys := fun hmem => h ((d.contains_iff k).mpr ((d.mem_keys_iff k).mp hmem))
    rw [if_neg h,size,(perm_insert hk v).length_eq]
    rfl

end Dictionary
end ClusterFramework
