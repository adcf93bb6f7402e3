import ClusterFramework.Proofs.Dictionary
import ClusterFramework.TaskTable

/-! A task stands under its own id, and no operation on a table changes that. The queued
tasks are therefore listed by ascending id, each of them once. -/
namespace ClusterFramework
namespace TaskTable

/-- Every task stands under its own id. -/
def Keyed (d : TaskTable) : Prop := ∀ e ∈ d.entries, e.2.id = e.1

variable {d : TaskTable}

theorem keyed_iff (d : TaskTable) : d.Keyed ↔ ∀ k t, d.get? k = some t → t.id = k := by
  simp only [Keyed,Prod.forall,Dictionary.mem_entries_iff]

theorem Keyed.id_eq (h : d.Keyed) {k : String} {t : Task} (ht : d.get? k = some t) : t.id = k :=
  (keyed_iff d).mp h k t ht

theorem keyed_empty : Keyed .empty := fun _ he => by cases he

theorem Keyed.insert (h : d.Keyed) (t : Task) : Keyed (Dictionary.insert d t.id t) := by
  intro e he
  rcases Dictionary.mem_insertEntry he with rfl | he
  · rfl
  · exact h e he

theorem Keyed.add (h : d.Keyed) {t : Task} {d' : TaskTable} (ha : d.add t = .ok d') :
    d'.Keyed := by
  unfold TaskTable.add at ha
  split at ha
  · cases ha
  · cases ha
    exact h.insert t

theorem Keyed.erase (h : d.Keyed) (k : String) : Keyed (Dictionary.erase d k) :=
  fun e he => h e (List.mem_filter.mp he).1

theorem Keyed.modify (h : d.Keyed) {f : Task → Task} (hf : ∀ t, (f t).id = t.id) (k : String) :
    Keyed (Dictionary.modify d k f) := by
  rw [keyed_iff]
  intro k' t ht
  rw [Dictionary.get?_modify] at ht
  split at ht
  · obtain ⟨u,hu,rfl⟩ := Option.map_eq_some_iff.mp ht
    rw [hf,h.id_eq hu]
  · exact h.id_eq ht

theorem Keyed.foldl_erase (h : d.Keyed) (ks : List String) :
    Keyed (ks.foldl Dictionary.erase d) := by
  induction ks generalizing d with
  | nil => exact h
  | cons k ks ih => exact ih (h.erase k)

theorem mem_inState_iff (d : TaskTable) (s : TaskState) (t : Task) :
    t ∈ d.inState s ↔ (∃ k, d.get? k = some t) ∧ t.state = s := by
  simp only [inState,List.mem_filter,Dictionary.mem_values_iff,decide_eq_true_eq]

theorem Keyed.mem_inState_iff (h : d.Keyed) (s : TaskState) (t : Task) :
    t ∈ d.inState s ↔ d.get? t.id = some t ∧ t.state = s := by
  rw [TaskTable.mem_inState_iff]
  constructor
  · rintro ⟨⟨k,hk⟩,hs⟩
    rw [h.id_eq hk]
    exact ⟨hk,hs⟩
  · rintro ⟨ht,hs⟩
    exact ⟨⟨t.id,ht⟩,hs⟩

theorem Keyed.pairwise_inState (h : d.Keyed) (s : TaskState) :
    (d.inState s).Pairwise fun t u => before t.id u.id := by
  have hvalues : d.values.Pairwise fun t u => before t.id u.id := by
    rw [Dictionary.values,List.pairwise_map]
    refine d.ascending.imp_of_mem fun he hf hb => ?_
    rw [h _ he,h _ hf]
    exact hb
  exact hvalues.sublist List.filter_sublist

theorem Keyed.nodup_ids (h : d.Keyed) (s : TaskState) : ((d.inState s).map Task.id).Nodup := by
  rw [List.nodup_iff_pairwise_ne,List.pairwise_map]
  refine (h.pairwise_inState s).imp fun {t u} hb he => ?_
  rw [he] at hb
  exact before_irrefl _ hb

/-- The state of the task that stands under an id. -/
def stateOf (d : TaskTable) (id : String) : Option TaskState := (d.get? id).map Task.state

theorem stateOf_modify (d : TaskTable) (id id' : String) (f : Task → Task) :
    stateOf (d.modify id f) id' =
      if id' = id then (d.get? id').map fun t => (f t).state else d.stateOf id' := by
  rw [stateOf,Dictionary.get?_modify]
  split
  · rw [Option.map_map]
    rfl
  · rfl

theorem hasQueued_iff_stateOf (d : TaskTable) :
    d.hasQueued ↔ ∃ id, d.stateOf id = some .queued := by
  simp only [hasQueued,List.any_eq_true,Dictionary.mem_values_iff,stateOf,
    Option.map_eq_some_iff,decide_eq_true_eq]
  constructor
  · rintro ⟨t,⟨id,hget⟩,hstate⟩
    exact ⟨id,t,hget,hstate⟩
  · rintro ⟨id,t,hget,hstate⟩
    exact ⟨t,⟨id,hget⟩,hstate⟩

/-- Whether the id is known or not, the table afterwards is the modified one. -/
theorem getD_change (d : TaskTable) (id : String) (f : Task → Task) :
    ((d.change id f).toOption).getD d = d.modify id f := by
  cases h : d.contains id with
  | true => rw [change_of_contains h]; rfl
  | false =>
    rw [change_of_not_contains h,Dictionary.modify_of_not_contains h]
    rfl

end TaskTable
end ClusterFramework
