import ClusterFramework.Proofs.TaskTable
import Mathlib.Algebra.Ring.Nat
import Mathlib.Data.List.Nodup

/-! Tables as a framework builds them, one action after the other. Each task stands under its own
id, so the lists of tasks by state are in order, free of repetition and together all tasks, and an
action concerns the task of one id only. -/
namespace ClusterFramework

/-- What is done with a table. -/
inductive TaskAction where
  | add (t : Task)
  | delete (id : String)
  | setState (id : String) (s : TaskState)
  | setLaunched (id : String)
  | setStatus (id : String) (s : TaskStatus)
  | requeue (id : String)
  deriving DecidableEq,Repr

namespace TaskAction

def id : TaskAction → String
  | add t => t.id
  | delete id | setState id _ | setLaunched id | setStatus id _ | requeue id => id

def isAdd : TaskAction → Bool
  | add _ => true
  | _ => false

/-- The one error an action may have. -/
def refusal (x : TaskAction) : TaskError :=
  if x.isAdd then .alreadyExists x.id else .notFound x.id

end TaskAction

namespace TaskTable

def perform (d : TaskTable) : TaskAction → Except TaskError TaskTable
  | .add t => d.add t
  | .delete id => (d.delete id).map Prod.snd
  | .setState id s => d.setState id s
  | .setLaunched id => d.setLaunched id
  | .setStatus id s => d.setStatus id s
  | .requeue id => d.requeue id

def act (d : TaskTable) (x : TaskAction) : TaskTable := (d.perform x).toOption.getD d

def play (d : TaskTable) (xs : List TaskAction) : TaskTable := xs.foldl act d

variable {d : TaskTable} {x : TaskAction}

/-- An action is refused for what stands under its id, or it changes nothing under any other. -/
inductive Performed (d : TaskTable) (x : TaskAction) : Except TaskError TaskTable → Prop
  | refused : d.contains x.id = x.isAdd → Performed d x (.error x.refusal)
  | done {d' : TaskTable} : d.contains x.id = !x.isAdd →
      (∀ id, id ≠ x.id → d'.get? id = d.get? id) → (d.Keyed → d'.Keyed) → Performed d x (.ok d')

theorem performed_add (d : TaskTable) (t : Task) : Performed d (.add t) (d.add t) := by
  rw [TaskTable.add]
  split
  · rename_i hc
    exact .refused hc
  · rename_i hc
    refine .done (Bool.eq_false_iff.mpr hc) (fun id hid => ?_) (fun h => h.insert t)
    rw [Dictionary.get?_insert]
    exact if_neg hid

theorem performed_delete (d : TaskTable) (id : String) :
    Performed d (.delete id) ((d.delete id).map Prod.snd) := by
  rw [TaskTable.delete]
  cases ht : d.get? id with
  | none => exact .refused ((d.get?_eq_none_iff id).mp ht)
  | some t =>
    refine .done ((d.contains_iff id).mpr ⟨t,ht⟩) (fun id' hid => ?_) (fun h => h.erase id)
    rw [Dictionary.get?_erase]
    exact if_neg hid

theorem performed_change (hx : x.isAdd = false) (d : TaskTable) {f : Task → Task}
    (hf : ∀ t, (f t).id = t.id) : Performed d x (d.change x.id f) := by
  cases hc : d.contains x.id with
  | false =>
    have hrefusal : x.refusal = .notFound x.id := by simp [TaskAction.refusal,hx]
    rw [change_of_not_contains hc,← hrefusal]
    exact .refused (hc.trans hx.symm)
  | true =>
    rw [change_of_contains hc]
    refine .done (by rw [hc,hx]; rfl) (fun id hid => ?_) (fun h => h.modify hf x.id)
    rw [Dictionary.get?_modify,if_neg hid]

theorem performed (d : TaskTable) (x : TaskAction) : Performed d x (d.perform x) := by
  cases x with
  | add t => exact performed_add d t
  | delete id => exact performed_delete d id
  | setState id s => exact performed_change (x := .setState id s) rfl d fun _ => rfl
  | setLaunched id => exact performed_change (x := .setLaunched id) rfl d fun _ => rfl
  | setStatus id s => exact performed_change (x := .setStatus id s) rfl d fun _ => rfl
  | requeue id => exact performed_change (x := .requeue id) rfl d fun _ => rfl

theorem perform_eq_error_iff (d : TaskTable) (x : TaskAction) (e : TaskError) :
    d.perform x = .error e ↔ d.contains x.id = x.isAdd ∧ e = x.refusal := by
  have h := performed d x
  generalize d.perform x = answer at h
  cases h with
  | refused hc => simp [hc,eq_comm]
  | done hc => simp [hc]

theorem get?_act (d : TaskTable) (x : TaskAction) {id : String} (hid : id ≠ x.id) :
    (d.act x).get? id = d.get? id := by
  have h := performed d x
  rw [act]
  generalize d.perform x = answer at h
  cases h with
  | refused => rfl
  | done _ hkept => exact hkept id hid

theorem act_of_error {e : TaskError} (h : d.perform x = .error e) : d.act x = d := by
  rw [act,h]
  rfl

theorem Keyed.act (h : d.Keyed) (x : TaskAction) : (d.act x).Keyed := by
  have hx := performed d x
  rw [TaskTable.act]
  generalize d.perform x = answer at hx
  cases hx with
  | refused => exact h
  | done _ _ hkeyed => exact hkeyed h

theorem Keyed.play (h : d.Keyed) (xs : List TaskAction) : (d.play xs).Keyed := by
  induction xs generalizing d with
  | nil => exact h
  | cons x xs ih => exact ih (h.act x)

theorem Keyed.mem_values_iff (h : d.Keyed) (t : Task) : t ∈ d.values ↔ d.get? t.id = some t := by
  rw [Dictionary.mem_values_iff]
  exact ⟨fun ⟨k,hk⟩ => (h.id_eq hk).symm ▸ hk,fun ht => ⟨t.id,ht⟩⟩

theorem Keyed.nodup_inState (h : d.Keyed) (s : TaskState) : (d.inState s).Nodup :=
  (h.nodup_ids s).of_map Task.id

theorem Keyed.nodup_values (h : d.Keyed) : d.values.Nodup := by
  rw [List.nodup_iff_pairwise_ne,Dictionary.values,List.pairwise_map]
  refine d.ascending.imp_of_mem fun {e f} he hf hb hef => ?_
  rw [← h e he,← h f hf,hef] at hb
  exact before_irrefl _ hb

theorem disjoint_inState (d : TaskTable) {s s' : TaskState} (hs : s ≠ s') :
    (d.inState s).Disjoint (d.inState s') := by
  intro t ht ht'
  have hts : t.state = s := by simpa using (List.mem_filter.mp ht).2
  have hts' : t.state = s' := by simpa using (List.mem_filter.mp ht').2
  exact hs (hts.symm.trans hts')

/-- Every task is in the list of one state and in no other. -/
theorem Keyed.perm_flatMap_inState (h : d.Keyed) : (TaskState.all.flatMap d.inState).Perm d.values := by
  have hnodup : (TaskState.all.flatMap d.inState).Nodup := by
    refine List.nodup_flatMap.mpr ⟨fun s _ => h.nodup_inState s,?_⟩
    have hall : TaskState.all.Nodup := by decide
    exact hall.imp fun hs => d.disjoint_inState hs
  refine (List.perm_ext_iff_of_nodup hnodup h.nodup_values).mpr fun t => ?_
  rw [List.mem_flatMap]
  constructor
  · rintro ⟨s,_,ht⟩
    exact (List.mem_filter.mp ht).1
  · intro ht
    exact ⟨t.state,t.state.mem_all,List.mem_filter.mpr ⟨ht,decide_eq_true rfl⟩⟩

theorem Keyed.sum_length_inState (h : d.Keyed) :
    (TaskState.all.map fun s => (d.inState s).length).sum = d.size := by
  have hlength := h.perm_flatMap_inState.length_eq
  rw [List.length_flatMap] at hlength
  rw [hlength,Dictionary.values,List.length_map]
  rfl

/-- The id of the one is not behind the id of the other. -/
def idAtMost (t u : Task) : Bool := decide (Utf8.encode t.id ≤ Utf8.encode u.id)

/-- In whatever order the tasks come, those in a state are the list of that state once they are
sorted by id. -/
theorem Keyed.mergeSort_filter (h : d.Keyed) (s : TaskState) {ts : List Task}
    (hts : ts.Perm d.values) : (ts.filter fun t => t.state = s).mergeSort idAtMost = d.inState s := by
  have hperm : ((ts.filter fun t => t.state = s).mergeSort idAtMost).Perm (d.inState s) :=
    (List.mergeSort_perm _ _).trans (hts.filter _)
  have htrans : ∀ t u v, idAtMost t u → idAtMost u v → idAtMost t v := fun t u v htu huv =>
    decide_eq_true (List.le_trans (of_decide_eq_true htu) (of_decide_eq_true huv))
  have htotal : ∀ t u, idAtMost t u || idAtMost u t := by
    intro t u
    rcases List.le_total (Utf8.encode t.id) (Utf8.encode u.id) with hle | hle <;>
      simp [idAtMost,hle]
  have hsorted : (d.inState s).Pairwise fun t u => idAtMost t u :=
    (h.pairwise_inState s).imp fun hb => decide_eq_true (List.le_of_lt hb)
  refine List.Perm.eq_of_pairwise (fun t u ht hu htu hut => ?_)
    (List.pairwise_mergeSort htrans htotal _) hsorted hperm
  have hid : t.id = u.id := Utf8.encode_injective
    (List.le_antisymm (of_decide_eq_true htu) (of_decide_eq_true hut))
  have ht' := ((h.mem_inState_iff s t).mp (hperm.mem_iff.mp ht)).1
  have hu' := ((h.mem_inState_iff s u).mp hu).1
  rw [hid,hu'] at ht'
  exact (Option.some.inj ht').symm

/-- Whatever was done with a table that began empty, each task stands under its own id; the list of
a state has the tasks in that state, each once and in ascending order of ids, and is what sorting
the tasks in any order gives; these lists make up all tasks. A further action fails exactly if
the id of a task to add is taken, or else if the id is unknown; it then changes nothing, and it
never changes what stands under another id. -/
theorem listings_of_actions (xs : List TaskAction) :
    let d : TaskTable := play .empty xs
    (∀ id t, d.get? id = some t → t.id = id) ∧
      (∀ s, (∀ t, t ∈ d.inState s ↔ d.get? t.id = some t ∧ t.state = s) ∧
        (d.inState s).Nodup ∧ (d.inState s).Pairwise (fun t u => before t.id u.id) ∧
        ∀ ts : List Task, ts.Perm d.values →
          (ts.filter fun t => t.state = s).mergeSort idAtMost = d.inState s) ∧
      (TaskState.all.flatMap d.inState).Perm d.values ∧
      (∀ s s', s ≠ s' → (d.inState s).Disjoint (d.inState s')) ∧
      (∀ t, t ∈ d.values ↔ d.get? t.id = some t) ∧
      (TaskState.all.map fun s => (d.inState s).length).sum = d.size ∧
      (d.hasQueued ↔ d.queued ≠ []) ∧
      ∀ x : TaskAction, (∀ id, id ≠ x.id → (d.act x).get? id = d.get? id) ∧
        (∀ e, d.perform x = .error e ↔ d.contains x.id = x.isAdd ∧ e = x.refusal) ∧
        ∀ e, d.perform x = .error e → d.act x = d := by
  intro d
  have hd : d.Keyed := keyed_empty.play xs
  exact ⟨fun id t => hd.id_eq,
    fun s => ⟨hd.mem_inState_iff s,hd.nodup_inState s,hd.pairwise_inState s,
      fun ts => hd.mergeSort_filter s⟩,
    hd.perm_flatMap_inState,fun s s' => d.disjoint_inState,hd.mem_values_iff,
    hd.sum_length_inState,d.hasQueued_iff,
    fun x => ⟨fun id => d.get?_act x,d.perform_eq_error_iff x,fun e => act_of_error⟩⟩

end TaskTable
end ClusterFramework
