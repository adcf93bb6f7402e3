import ClusterFramework.Proofs.PriorityQueue.Order
import Mathlib.Data.List.Perm.Basic
import Mathlib.Data.Multiset.AddSub

/-! A queue holds pairs of a value and a priority, each as often as it was pushed and not taken
out again. Sifting only rearranges them, and the position it ends at is where the item that it
started with now stands. The values can be of any type, so that items with equal pairs are told
apart by labelling their values. -/
namespace ClusterFramework

def QueueItem.pair {α : Type} (x : QueueItem α) : α × Int64 := (x.value,x.priority)

namespace PriorityQueue

variable {α : Type} {items : Array (QueueItem α)} {i j : Nat}

def pairs (items : Array (QueueItem α)) : Array (α × Int64) := items.map QueueItem.pair

@[simp] theorem size_pairs (items : Array (QueueItem α)) : (pairs items).size = items.size :=
  Array.size_map

theorem getElem?_pairs (h : i < items.size) : (pairs items)[i]? = some items[i].pair := by
  simp [pairs,h]

theorem layout_eq (q : PriorityQueue α) : q.layout = (pairs q.items).toList := by
  simp [layout,pairs,QueueItem.pair]

theorem pairs_exchange (hi : i < items.size) (hj : j < items.size) :
    pairs (exchange items i j hi hj) = (pairs items).swap i j (by simpa) (by simpa) := by
  apply Array.ext
  · simp
  · intro k hk hk'
    simp only [pairs,exchange,Array.getElem_map,Array.getElem_set,Array.getElem_swap]
    by_cases hkj : k = j
    · by_cases hki : k = i
      · subst hkj; subst hki; simp [QueueItem.pair]
      · subst hkj; simp [hki,QueueItem.pair]
    · by_cases hki : k = i
      · subst hki; simp [Ne.symm hkj,QueueItem.pair]
      · simp [hki,hkj,Ne.symm hki,Ne.symm hkj]

/-- The same pairs in another order, in which what was at `i` is at `j`. -/
structure Rearranged (items items' : Array (QueueItem α)) (i j : Nat) : Prop where
  perm : (pairs items').toList.Perm (pairs items).toList
  moved : (pairs items')[j]? = (pairs items)[i]?

namespace Rearranged

variable {items' items'' : Array (QueueItem α)} {k : Nat}

theorem refl (items : Array (QueueItem α)) (i : Nat) : Rearranged items items i i :=
  ⟨.refl _,rfl⟩

theorem trans (h : Rearranged items items' i k) (h' : Rearranged items' items'' k j) :
    Rearranged items items'' i j :=
  ⟨h'.perm.trans h.perm,h'.moved.trans h.moved⟩

theorem exchange_left (hi : i < items.size) (hj : j < items.size) :
    Rearranged items (exchange items i j hi hj) i j where
  perm := by
    rw [pairs_exchange]
    exact (Array.swap_perm ..).toList
  moved := by
    rw [pairs_exchange,Array.getElem?_eq_getElem (by simpa),Array.getElem_swap_right,
      Array.getElem?_eq_getElem]

theorem exchange_right (hi : i < items.size) (hj : j < items.size) :
    Rearranged items (exchange items i j hi hj) j i where
  perm := (exchange_left hi hj).perm
  moved := by
    rw [pairs_exchange,Array.getElem?_eq_getElem (by simpa),Array.getElem_swap_left,
      Array.getElem?_eq_getElem]

/-- What is at the other positions is rearranged too. -/
theorem others (h : Rearranged items items' i j) :
    ((pairs items').toList.eraseIdx j).Perm ((pairs items).toList.eraseIdx i) := by
  have hmoved : (pairs items').toList[j]? = (pairs items).toList[i]? := by
    simpa only [Array.getElem?_toList] using h.moved
  exact List.Perm.eraseIdx_of_getElem?_eq hmoved h.perm

end Rearranged

theorem rearranged_siftUp (items : Array (QueueItem α)) (i : Nat) :
    Rearranged items (siftUp items i).1 i (siftUp items i).2 := by
  fun_induction siftUp items i with
  | case1 items i => exact .refl items i
  | case2 items i hi hle ih => exact (Rearranged.exchange_right _ hi.2).trans ih
  | case3 items i => exact .refl items i

theorem rearranged_siftDown (items : Array (QueueItem α)) (i : Nat) :
    Rearranged items (siftDown items i).1 i (siftDown items i).2 := by
  fun_induction siftDown items i with
  | case1 items i => exact .refl items i
  | case2 items i => exact .refl items i
  | case3 items i c hchild hic hle ih => exact (Rearranged.exchange_left _ c.isLt).trans ih

theorem rearranged_settle (items : Array (QueueItem α)) (i : Nat) :
    Rearranged items (settle items i).1 i (settle items i).2 := by
  have hdown := rearranged_siftDown items i
  rw [settle_eq]
  split
  · rename_i hstays
    rw [hstays] at hdown
    exact hdown.trans (rearranged_siftUp _ i)
  · exact hdown

/-- The pairs that are queued. -/
def contents (q : PriorityQueue α) : Multiset (α × Int64) := q.layout

/-- The pairs that are queued at other positions. -/
def others (q : PriorityQueue α) (i : Nat) : Multiset (α × Int64) := (q.layout.eraseIdx i : List _)

variable {q r : PriorityQueue α}

theorem contents_eq_cons_others {e : α × Int64} (h : q.layout[i]? = some e) :
    q.contents = e ::ₘ q.others i := by
  obtain ⟨hi,he⟩ := List.getElem?_eq_some_iff.mp h
  have hperm := List.getElem_cons_eraseIdx_perm hi
  rw [he] at hperm
  exact (Multiset.coe_eq_coe.mpr hperm).symm

theorem contents_eq_zero_iff (q : PriorityQueue α) : q.contents = 0 ↔ q.size = 0 := by
  simp [contents,layout,size]

theorem push_position (q : PriorityQueue α) (v : α) (p : Int64) :
    (q.push v p).1.layout[(q.push v p).2]? = some (v,p) ∧
      (q.push v p).1.others (q.push v p).2 = q.contents := by
  have h := rearranged_siftUp (q.items.push ⟨v,p,q.size⟩) q.size
  have hnew : (pairs (q.items.push ⟨v,p,q.size⟩)).toList = q.layout ++ [(v,p)] := by
    simp [pairs,layout,QueueItem.pair]
  have hlength : q.layout.length = q.size := by simp [layout,size]
  have hmoved := h.moved
  rw [← Array.getElem?_toList,← Array.getElem?_toList,hnew,← hlength,
    List.getElem?_concat_length] at hmoved
  have hothers := h.others
  rw [hnew,List.eraseIdx_append_of_length_le (by omega),hlength,Nat.sub_self] at hothers
  refine ⟨?_,?_⟩
  · rw [layout_eq]
    simpa [PriorityQueue.push,hlength] using hmoved
  · rw [others,layout_eq,contents]
    exact Multiset.coe_eq_coe.mpr (by simpa [PriorityQueue.push] using hothers)

theorem pairs_takenOff (h : i < items.size) :
    (pairs (takenOff items i h)).toList.Perm ((pairs items).toList.eraseIdx i) := by
  have hlast : items.size-1 < items.size := by omega
  have hothers := (Rearranged.exchange_left h hlast).others
  have hpop : (pairs (takenOff items i h)).toList =
      (pairs (exchange items i (items.size-1) h hlast)).toList.dropLast := by
    simp [takenOff,pairs]
  rw [hpop,← List.eraseIdx_eq_dropLast (i := items.size-1) (by simp; omega)]
  exact hothers

theorem remove_position {x : QueueItem α} (h : q.remove i = some (x,r)) :
    q.layout[i]? = some x.pair ∧ r.contents = q.others i := by
  have hi := lt_of_remove h
  rw [remove_of_lt hi] at h
  cases h
  refine ⟨?_,?_⟩
  · rw [layout_eq,Array.getElem?_toList,getElem?_pairs hi]
    rfl
  · rw [contents,layout_eq,others,layout_eq]
    apply Multiset.coe_eq_coe.mpr
    have htaken := pairs_takenOff hi
    dsimp only
    split
    · exact (rearranged_settle _ i).perm.trans htaken
    · exact htaken

/-- A pop takes the item at the root. -/
theorem pop_root {x : QueueItem α} (h : q.pop = some (x,r)) :
    q.layout[0]? = some x.pair ∧ r.contents = q.others 0 := by
  obtain ⟨⟨x',r'⟩,hremove,hr⟩ := Option.map_eq_some_iff.mp h
  have hroot := remove_position hremove
  dsimp only at hr
  split at hr <;> cases hr <;> exact hroot

theorem priority_root_le (h : q.WellFormed) {x : QueueItem α} (hx : q.layout[0]? = some x.pair)
    {e : α × Int64} (he : e ∈ q.contents) : x.priority ≤ e.2 := by
  obtain ⟨y,hy,rfl⟩ := List.mem_map.mp (Multiset.mem_coe.mp he)
  obtain ⟨k,hk,rfl⟩ := List.getElem_of_mem hy
  have hk' : k < q.items.size := by simpa using hk
  have h0 : 0 < q.items.size := by omega
  have hpriority : x.priority = q.items[0].priority := by
    rw [layout_eq,Array.getElem?_toList,getElem?_pairs h0] at hx
    exact (congrArg Prod.snd (Option.some.inj hx)).symm
  rw [hpriority]
  simpa using (ordered_iff.mpr h.ordered).root k h0 hk'

theorem update_position {p : Int64} (h : q.update i p = some (r,j)) :
    ∃ e, q.layout[i]? = some e ∧ r.layout[j]? = some (e.1,p) ∧ r.others j = q.others i := by
  simp only [PriorityQueue.update] at h
  split at h
  · rename_i hi
    cases h
    have hsettle := rearranged_settle (q.items.set i { q.items[i] with priority := p } hi) i
    have hset : (pairs (q.items.set i { q.items[i] with priority := p } hi)).toList =
        (pairs q.items).toList.set i (q.items[i].value,p) := by
      simp [pairs,QueueItem.pair]
    refine ⟨q.items[i].pair,?_,?_,?_⟩
    · rw [layout_eq,Array.getElem?_toList,getElem?_pairs hi]
    · rw [layout_eq,Array.getElem?_toList,hsettle.moved,← Array.getElem?_toList,hset,
        List.getElem?_set_self (by simpa)]
      rfl
    · have hothers := hsettle.others
      rw [hset,List.eraseIdx_set_eq] at hothers
      rw [others,layout_eq,others,layout_eq]
      exact Multiset.coe_eq_coe.mpr hothers
  · cases h

/-- With enough pops every pair comes out, the lesser priorities first. -/
theorem popMany_sorted (h : q.WellFormed) {n : Nat} (hn : q.size ≤ n) :
    (((q.popMany n).1.map QueueItem.pair : List _) : Multiset _) = q.contents ∧
      (q.popMany n).1.Pairwise (fun x y => x.priority ≤ y.priority) ∧
        (q.popMany n).2.contents = 0 := by
  induction n generalizing q with
  | zero =>
    have hempty : q.contents = 0 := (contents_eq_zero_iff q).mpr (by omega)
    exact ⟨hempty.symm,.nil,hempty⟩
  | succ n ih =>
    rw [popMany]
    cases hpop : q.pop with
    | none =>
      have hempty : q.contents = 0 :=
        (contents_eq_zero_iff q).mpr ((pop_eq_none_iff q).mp hpop)
      exact ⟨hempty.symm,.nil,hempty⟩
    | some taken =>
      obtain ⟨x,r⟩ := taken
      obtain ⟨hroot,hrest⟩ := pop_root hpop
      have hcontents : q.contents = x.pair ::ₘ r.contents := by
        rw [hrest]
        exact contents_eq_cons_others hroot
      have hsize : r.size ≤ n := by
        have hcard := congrArg Multiset.card hcontents
        simp [contents,layout,size] at hcard hn
        simp only [size]
        omega
      obtain ⟨hall,hsorted,hnone⟩ := ih (h.pop hpop) hsize
      refine ⟨?_,List.pairwise_cons.mpr ⟨fun y hy => ?_,hsorted⟩,hnone⟩
      · rw [hcontents,← hall]
        rfl
      · have hmem : y.pair ∈ q.contents := by
          rw [hcontents,← hall]
          exact Multiset.mem_cons_of_mem (List.mem_map_of_mem hy)
        exact priority_root_le h hroot hmem

/-- Whatever was done with a queue of any capacity, a push adds its pair and tells where that
stands; a pop takes out a pair of the least priority; what is removed is the item at the position
given; an update gives the item at the position another priority, and tells where it stands now.
All other pairs stay as they are, and where there is no item, nothing changes. So pops take out
every pair once, the lesser priorities first. -/
theorem contents_of_actions (n : Nat) (xs : List (QueueAction α)) :
    let q := (withCapacity n : PriorityQueue α).play xs
    (∀ v p, (q.push v p).1.contents = (v,p) ::ₘ q.contents ∧
        (q.push v p).1.layout[(q.push v p).2]? = some (v,p) ∧
        (q.push v p).1.others (q.push v p).2 = q.contents) ∧
      ((q.pop = none ↔ q.contents = 0) ∧ (q.contents = 0 → q.act .pop = q) ∧
        ∀ x r, q.pop = some (x,r) →
          q.contents = x.pair ::ₘ r.contents ∧ ∀ e ∈ q.contents, x.priority ≤ e.2) ∧
      (∀ i, (q.remove i = none ↔ q.size ≤ i) ∧ (q.size ≤ i → q.act (.remove i) = q) ∧
        ∀ x r, q.remove i = some (x,r) →
          q.layout[i]? = some x.pair ∧ r.contents = q.others i) ∧
      (∀ i p, (q.update i p = none ↔ q.size ≤ i) ∧ (q.size ≤ i → q.act (.update i p) = q) ∧
        ∀ r j, q.update i p = some (r,j) →
          ∃ e, q.layout[i]? = some e ∧ r.layout[j]? = some (e.1,p) ∧ r.others j = q.others i) ∧
      ∀ m, q.size ≤ m →
        (((q.popMany m).1.map QueueItem.pair : List _) : Multiset _) = q.contents ∧
          (q.popMany m).1.Pairwise (fun x y => x.priority ≤ y.priority) ∧
          (q.popMany m).2.contents = 0 := by
  intro q
  have h : q.WellFormed := (wellFormed_withCapacity n).play xs
  have hpop : q.pop = none ↔ q.contents = 0 := by
    rw [pop_eq_none_iff,contents_eq_zero_iff]
  refine ⟨fun v p => ?_,⟨hpop,fun hempty => ?_,fun x r hr => ?_⟩,
    fun i => ⟨q.remove_eq_none_iff i,fun hi => ?_,fun x r hr => remove_position hr⟩,
    fun i p => ⟨q.update_eq_none_iff i p,fun hi => ?_,fun r j hr => update_position hr⟩,
    fun m hm => popMany_sorted h hm⟩
  · obtain ⟨hnew,hothers⟩ := q.push_position v p
    exact ⟨hothers ▸ contents_eq_cons_others hnew,hnew,hothers⟩
  · rw [act,hpop.mpr hempty]
    rfl
  · obtain ⟨hroot,hrest⟩ := pop_root hr
    exact ⟨hrest ▸ contents_eq_cons_others hroot,fun e => priority_root_le h hroot⟩
  · rw [act,(q.remove_eq_none_iff i).mpr hi]
    rfl
  · rw [act,(q.update_eq_none_iff i p).mpr hi]
    rfl

end PriorityQueue
end ClusterFramework
