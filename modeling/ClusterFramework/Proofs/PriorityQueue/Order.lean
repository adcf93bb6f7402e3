import ClusterFramework.PriorityQueue
import Mathlib.Logic.Equiv.Basic

/-! A queue stays a heap: no item has a lesser priority than the one at its parent's position,
each item knows the position it stands at, and the capacity is never exceeded. A sift starts
from a heap whose order is disturbed at one position, and each exchange moves the disturbance
to the position exchanged with. -/
namespace ClusterFramework
namespace PriorityQueue

variable {α : Type} {items : Array (QueueItem α)} {i j : Nat}

def parent (i : Nat) : Nat := (i-1)/2

theorem parent_lt (h : 0 < i) : parent i < i := by
  unfold parent
  omega

/-- The priority at `i` is not greater than the one at `j`, if both are positions. -/
def AtMost (items : Array (QueueItem α)) (i j : Nat) : Prop :=
  ∀ (hi : i < items.size) (hj : j < items.size), items[i].priority ≤ items[j].priority

theorem AtMost.refl (items : Array (QueueItem α)) (i : Nat) : AtMost items i i :=
  fun _ _ => Int64.le_refl _

theorem AtMost.trans {k : Nat} (h : AtMost items i k) (hk : k < items.size)
    (h' : AtMost items k j) : AtMost items i j :=
  fun hi hj => Int64.le_trans (h hi hk) (h' hk hj)

theorem AtMost.of_size_le (h : items.size ≤ j) : AtMost items i j :=
  fun _ hj => absurd hj (by omega)

theorem AtMost.of_not_le {hi : i < items.size} {hj : j < items.size}
    (h : ¬items[i].priority ≤ items[j].priority) : AtMost items j i :=
  fun _ _ => Int64.le_of_lt (Int64.not_le.mp h)

theorem swap_lt {k n : Nat} (hi : i < n) (hj : j < n) (hk : k < n) : Equiv.swap i j k < n := by
  rw [Equiv.swap_apply_def]
  split
  · exact hj
  · split
    · exact hi
    · exact hk

theorem priority_exchange (hi : i < items.size) (hj : j < items.size) {k : Nat}
    (hk : k < (exchange items i j hi hj).size) (hswap : Equiv.swap i j k < items.size) :
    (exchange items i j hi hj)[k].priority = items[Equiv.swap i j k].priority := by
  simp only [exchange,Equiv.swap_apply_def,Array.getElem_set]
  by_cases hki : k = i
  · by_cases hkj : k = j
    · subst hki; subst hkj; simp
    · subst hki; simp [Ne.symm hkj]
  · by_cases hkj : k = j
    · subst hkj; simp [hki]
    · simp [hki,hkj,Ne.symm hki,Ne.symm hkj]

theorem atMost_exchange (hi : i < items.size) (hj : j < items.size) {k l : Nat} :
    AtMost (exchange items i j hi hj) k l ↔
      AtMost items (Equiv.swap i j k) (Equiv.swap i j l) := by
  constructor
  · intro h hk hl
    have hk' : k < items.size := by simpa using swap_lt hi hj hk
    have hl' : l < items.size := by simpa using swap_lt hi hj hl
    have h := h (by simpa) (by simpa)
    rwa [priority_exchange hi hj _ hk,priority_exchange hi hj _ hl] at h
  · intro h hk hl
    have hk' : k < items.size := by simpa using hk
    have hl' : l < items.size := by simpa using hl
    have hswap := swap_lt hi hj hk'
    have hswap' := swap_lt hi hj hl'
    rw [priority_exchange hi hj hk hswap,priority_exchange hi hj hl hswap']
    exact h hswap hswap'

def Ordered (items : Array (QueueItem α)) : Prop := ∀ c, 0 < c → AtMost items (parent c) c

/-- In order but for the item at `i`: what stands above it could stand above all that is
below it. -/
structure Disturbed (items : Array (QueueItem α)) (i : Nat) : Prop where
  apart : ∀ c, 0 < c → c ≠ i → parent c ≠ i → AtMost items (parent c) c
  across : 0 < i → ∀ c, 0 < c → parent c = i → AtMost items (parent i) c

/-- The item at `i` may have to go up. -/
structure Rising (items : Array (QueueItem α)) (i : Nat) : Prop extends Disturbed items i where
  below : ∀ c, 0 < c → parent c = i → AtMost items i c

/-- The item at `i` may have to go down. -/
structure Sinking (items : Array (QueueItem α)) (i : Nat) : Prop extends Disturbed items i where
  above : 0 < i → AtMost items (parent i) i

theorem Disturbed.ordered (h : Disturbed items i) (habove : 0 < i → AtMost items (parent i) i)
    (hbelow : ∀ c, 0 < c → parent c = i → AtMost items i c) : Ordered items := by
  intro c hc
  by_cases hci : c = i
  · subst hci
    exact habove hc
  · by_cases hp : parent c = i
    · exact hp ▸ hbelow c hc hp
    · exact h.apart c hc hci hp

/-- The item at the root has the least priority. -/
theorem Ordered.root (h : Ordered items) (i : Nat) : AtMost items 0 i := by
  induction i using Nat.strongRecOn with
  | ind i ih =>
    by_cases h0 : i = 0
    · subst h0
      exact .refl items 0
    · have hlt := parent_lt (Nat.pos_of_ne_zero h0)
      intro hz hi
      exact (ih (parent i) hlt).trans (by omega) (h i (Nat.pos_of_ne_zero h0)) hz hi

theorem Rising.exchange (h : Rising items i) (h0 : 0 < i) (hi : i < items.size)
    (hp : parent i < items.size) (hlt : AtMost items i (parent i)) :
    Rising (exchange items (parent i) i hp hi) (parent i) := by
  have hpi : parent i < i := parent_lt h0
  have hup : 0 < parent i → AtMost items (parent (parent i)) (parent i) := fun hp0 =>
    h.apart (parent i) hp0 (by omega) (by have := parent_lt hp0; omega)
  refine ⟨⟨fun c hc hcp hpc => ?_,fun hp0 c hc hpc => ?_⟩,fun c hc hpc => ?_⟩
  · rw [atMost_exchange]
    have hci : c ≠ i := fun heq => hpc (by rw [heq])
    rw [Equiv.swap_apply_of_ne_of_ne hcp hci]
    by_cases hpi' : parent c = i
    · rw [hpi',Equiv.swap_apply_right]
      exact h.across h0 c hc hpi'
    · rw [Equiv.swap_apply_of_ne_of_ne hpc hpi']
      exact h.apart c hc hci hpi'
  · rw [atMost_exchange]
    have hpp := parent_lt hp0
    rw [Equiv.swap_apply_of_ne_of_ne (by omega) (by omega)]
    by_cases hci : c = i
    · rw [hci,Equiv.swap_apply_right]
      exact hup hp0
    · have hcp : c ≠ parent i := by have := parent_lt hc; omega
      rw [Equiv.swap_apply_of_ne_of_ne hcp hci]
      exact (hup hp0).trans hp (hpc ▸ h.apart c hc hci (by omega))
  · rw [atMost_exchange,Equiv.swap_apply_left]
    by_cases hci : c = i
    · rw [hci,Equiv.swap_apply_right]
      exact hlt
    · have hcp : c ≠ parent i := by have := parent_lt hc; omega
      rw [Equiv.swap_apply_of_ne_of_ne hcp hci]
      exact hlt.trans hp (hpc ▸ h.apart c hc hci (by omega))

theorem ordered_siftUp (h : Rising items i) : Ordered (siftUp items i).1 := by
  fun_induction siftUp items i with
  | case1 items i hi hle =>
    exact h.ordered (fun _ _ _ => hle) h.below
  | case2 items i hi hle ih =>
    have hp : parent i < items.size := Nat.lt_trans (parent_lt hi.1) hi.2
    exact ih (h.exchange hi.1 hi.2 hp (.of_not_le hle))
  | case3 items i hi =>
    refine h.ordered (fun h0 => .of_size_le ?_) h.below
    omega

theorem child_of_parent {c : Nat} (hc : 0 < c) (hp : parent c = i) : c = 2*i+1 ∨ c = 2*i+2 := by
  unfold parent at hp
  omega

theorem lesserChild?_eq_none (h : lesserChild? items i = none) : items.size ≤ 2*i+1 := by
  unfold lesserChild? at h
  split at h
  · split at h <;> cases h
  · split at h
    · cases h
    · omega

theorem parent_of_lesserChild? {c : Fin items.size} (h : lesserChild? items i = some c) :
    parent c = i := by
  unfold lesserChild? at h
  unfold parent
  split at h
  · split at h <;> cases h <;> simp only <;> omega
  · split at h
    · cases h; simp only; omega
    · cases h

theorem atMost_of_lesserChild? {c : Fin items.size} (h : lesserChild? items i = some c) {d : Nat}
    (hd : 0 < d) (hp : parent d = i) : AtMost items c d := by
  unfold lesserChild? at h
  split at h
  · split at h
    · rename_i hright hlt
      cases h
      rcases child_of_parent hd hp with rfl | rfl
      · exact fun _ _ => Int64.le_of_lt hlt
      · exact .refl items _
    · rename_i hright hlt
      cases h
      rcases child_of_parent hd hp with rfl | rfl
      · exact .refl items _
      · exact fun _ _ => Int64.not_lt.mp hlt
  · split at h
    · cases h
      rcases child_of_parent hd hp with rfl | rfl
      · exact .refl items _
      · exact .of_size_le (by omega)
    · cases h

theorem Disturbed.sinking_exchange (h : Disturbed items i) {c : Fin items.size}
    (hchild : lesserChild? items i = some c) (hi : i < items.size) (hlt : AtMost items c i) :
    Sinking (exchange items i c hi c.isLt) c := by
  have hic : i < c.val := lt_of_lesserChild? hchild
  have hpc : parent c = i := parent_of_lesserChild? hchild
  refine ⟨⟨fun d hd hdc hpd => ?_,fun _ d hd hpd => ?_⟩,fun _ => ?_⟩
  · rw [atMost_exchange]
    by_cases hdi : d = i
    · subst hdi
      have hpp := parent_lt hd
      rw [Equiv.swap_apply_left,Equiv.swap_apply_of_ne_of_ne (by omega) (by omega)]
      exact h.across hd c (by omega) hpc
    · rw [Equiv.swap_apply_of_ne_of_ne hdi hdc]
      by_cases hpi : parent d = i
      · rw [hpi,Equiv.swap_apply_left]
        exact atMost_of_lesserChild? hchild hd hpi
      · rw [Equiv.swap_apply_of_ne_of_ne hpi hpd]
        exact h.apart d hd hdi hpi
  · have hcd := parent_lt hd
    rw [atMost_exchange,hpc,Equiv.swap_apply_left,
      Equiv.swap_apply_of_ne_of_ne (by omega) (by omega)]
    exact hpd ▸ h.apart d hd (by omega) (by omega)
  · rw [atMost_exchange,hpc,Equiv.swap_apply_left,Equiv.swap_apply_right]
    exact hlt

theorem below_of_lesserChild?_eq_none (h : lesserChild? items i = none) {c : Nat} (hc : 0 < c)
    (hp : parent c = i) : AtMost items i c := by
  have hsize := lesserChild?_eq_none h
  rcases child_of_parent hc hp with rfl | rfl <;> exact .of_size_le (by omega)

theorem below_of_lesserChild? {c : Fin items.size} (h : lesserChild? items i = some c)
    (hle : AtMost items i c) {d : Nat} (hd : 0 < d) (hp : parent d = i) : AtMost items i d :=
  hle.trans c.isLt (atMost_of_lesserChild? h hd hp)

theorem ordered_siftDown (h : Sinking items i) : Ordered (siftDown items i).1 := by
  fun_induction siftDown items i with
  | case1 items i hchild =>
    exact h.ordered h.above fun c hc hp => below_of_lesserChild?_eq_none hchild hc hp
  | case2 items i c hchild hic hle =>
    exact h.ordered h.above fun d hd hp => below_of_lesserChild? hchild (fun _ _ => hle) hd hp
  | case3 items i c hchild hic hle ih =>
    exact ih (h.sinking_exchange hchild (by omega) (.of_not_le hle))

theorem le_siftDown (items : Array (QueueItem α)) (i : Nat) : i ≤ (siftDown items i).2 := by
  fun_induction siftDown items i with
  | case1 => exact Nat.le_refl _
  | case2 => exact Nat.le_refl _
  | case3 items i c hchild hic hle ih => exact Nat.le_trans (Nat.le_of_lt hic) ih

/-- An item that does not go down has nothing lesser below it. -/
theorem siftDown_stays_or_sinks (h : Disturbed items i) :
    siftDown items i = (items,i) ∧ (∀ c, 0 < c → parent c = i → AtMost items i c) ∨
      i < (siftDown items i).2 ∧ Ordered (siftDown items i).1 := by
  rw [siftDown]
  split
  · rename_i hchild
    exact .inl ⟨rfl,fun c hc hp => below_of_lesserChild?_eq_none hchild hc hp⟩
  · rename_i c hchild
    have hic : i < c.val := lt_of_lesserChild? hchild
    dsimp only
    split
    · rename_i hle
      exact .inl ⟨rfl,fun d hd hp => below_of_lesserChild? hchild (fun _ _ => hle) hd hp⟩
    · rename_i hle
      have hi : i < items.size := Nat.lt_trans hic c.isLt
      have hmoved := le_siftDown (exchange items i c hi c.isLt) c
      have hsinking := h.sinking_exchange hchild hi (.of_not_le hle)
      exact .inr ⟨Nat.lt_of_lt_of_le hic hmoved,ordered_siftDown hsinking⟩

theorem settle_eq (items : Array (QueueItem α)) (i : Nat) :
    settle items i =
      if (siftDown items i).2 = i then siftUp (siftDown items i).1 i else siftDown items i := rfl

/-- Whichever way the item has to go. -/
theorem ordered_settle (h : Disturbed items i) : Ordered (settle items i).1 := by
  rw [settle_eq]
  rcases siftDown_stays_or_sinks h with ⟨hstays,hbelow⟩ | ⟨hmoved,hordered⟩
  · rw [hstays]
    simpa using ordered_siftUp ⟨h,hbelow⟩
  · rw [if_neg (Nat.ne_of_gt hmoved)]
    exact hordered

def Placed (items : Array (QueueItem α)) : Prop := ∀ i (h : i < items.size), items[i].index = i

theorem Placed.exchange (h : Placed items) (hi : i < items.size) (hj : j < items.size) :
    Placed (exchange items i j hi hj) := by
  intro k hk
  have hk' : k < items.size := by simpa using hk
  simp only [PriorityQueue.exchange,Array.getElem_set]
  by_cases hkj : k = j
  · simp [hkj]
  · by_cases hki : k = i
    · simp [hki,Ne.symm (hki ▸ hkj)]
    · simpa [Ne.symm hki,Ne.symm hkj] using h k hk'

theorem Placed.siftUp (h : Placed items) (i : Nat) : Placed (siftUp items i).1 := by
  fun_induction PriorityQueue.siftUp items i with
  | case1 => exact h
  | case2 items i hi hle ih => exact ih (h.exchange _ _)
  | case3 => exact h

theorem Placed.siftDown (h : Placed items) (i : Nat) : Placed (siftDown items i).1 := by
  fun_induction PriorityQueue.siftDown items i with
  | case1 => exact h
  | case2 => exact h
  | case3 items i c hchild hic hle ih => exact ih (h.exchange _ _)

theorem Placed.settle (h : Placed items) (i : Nat) : Placed (settle items i).1 := by
  rw [settle_eq]
  split
  · exact (h.siftDown i).siftUp i
  · exact h.siftDown i

structure WellFormed (q : PriorityQueue α) : Prop where
  ordered : ∀ i (h : i < q.items.size), 0 < i →
    q.items[(i-1)/2].priority ≤ q.items[i].priority
  placed : ∀ i (h : i < q.items.size), q.items[i].index = i
  fits : q.size ≤ q.capacity
  room : 0 < q.capacity

theorem ordered_iff : Ordered items ↔ ∀ i (h : i < items.size), 0 < i →
    items[(i-1)/2].priority ≤ items[i].priority :=
  ⟨fun h i hi h0 => h i h0 (Nat.lt_trans (parent_lt h0) hi) hi,
   fun h c hc _ hsize => h c hsize hc⟩

variable {q : PriorityQueue α}

theorem wellFormed_withCapacity (n : Nat) : (withCapacity n : PriorityQueue α).WellFormed where
  ordered := fun i h _ => absurd h (Nat.not_lt_zero i)
  placed := fun i h => absurd h (Nat.not_lt_zero i)
  fits := Nat.zero_le _
  room := Nat.lt_of_lt_of_le Nat.one_pos (Nat.le_max_right n 1)

/-- A new item may have to go up from the end. -/
theorem Ordered.rising_push (h : Ordered items) (x : QueueItem α) :
    Rising (items.push x) items.size := by
  have hnone (c : Nat) (hc : 0 < c) (hp : parent c = items.size) :
      (items.push x).size ≤ c := by
    have := parent_lt hc
    simpa using (by omega : items.size+1 ≤ c)
  refine ⟨⟨fun c hc hci _ => ?_,fun _ c hc hp => .of_size_le (hnone c hc hp)⟩,
    fun c hc hp => .of_size_le (hnone c hc hp)⟩
  intro hpc hcs
  have hc' : c < items.size := by simp only [Array.size_push] at hcs; omega
  have hpc' : parent c < items.size := Nat.lt_trans (parent_lt hc) hc'
  rw [Array.getElem_push_lt hpc',Array.getElem_push_lt hc']
  exact h c hc hpc' hc'

theorem Placed.push (h : Placed items) (v : α) (p : Int64) :
    Placed (items.push ⟨v,p,items.size⟩) := by
  intro i hi
  by_cases hlt : i < items.size
  · rw [Array.getElem_push_lt hlt]
    exact h i hlt
  · have heq : i = items.size := by simp only [Array.size_push] at hi; omega
    subst heq
    simp

theorem WellFormed.push (h : q.WellFormed) (v : α) (p : Int64) : (q.push v p).1.WellFormed where
  ordered := ordered_iff.mp (ordered_siftUp ((ordered_iff.mpr h.ordered).rising_push _))
  placed := (Placed.push h.placed v p).siftUp _
  fits := by
    have hfits := h.fits
    have hroom := h.room
    rw [size_push]
    simp only [PriorityQueue.push]
    split <;> omega
  room := by
    have hroom := h.room
    simp only [PriorityQueue.push]
    split <;> omega

/-- What is left once the item at `i` has changed places with the last one and was taken off. -/
def takenOff (items : Array (QueueItem α)) (i : Nat) (h : i < items.size) :
    Array (QueueItem α) :=
  (exchange items i (items.size-1) h (by omega)).pop

@[simp] theorem size_takenOff (h : i < items.size) : (takenOff items i h).size = items.size-1 := by
  simp [takenOff]

theorem lt_of_remove {x : QueueItem α} {r : PriorityQueue α} (h : q.remove i = some (x,r)) :
    i < q.items.size := by
  by_contra hi
  rw [(q.remove_eq_none_iff i).mpr (Nat.le_of_not_lt hi)] at h
  cases h

theorem remove_of_lt (h : i < q.items.size) :
    q.remove i = some ({ q.items[i] with index := q.items.size-1 },
      ⟨if i < q.items.size-1 then (settle (takenOff q.items i h) i).1 else takenOff q.items i h,
       q.capacity⟩) := by
  simp [remove,h,takenOff]

theorem AtMost.pop {k l : Nat} (h : AtMost items k l) : AtMost items.pop k l := by
  intro hk hl
  rw [Array.getElem_pop,Array.getElem_pop]
  exact h _ _

theorem Ordered.disturbed_takenOff (h : Ordered items) (hi : i < items.size) :
    Disturbed (takenOff items i hi) i := by
  have hlast (k l : Nat) (hk : k ≠ i) (hl : l ≠ i) (hkl : k < l) (hle : AtMost items k l) :
      AtMost (takenOff items i hi) k l := by
    by_cases hsize : l < items.size-1
    · have hle' : AtMost (exchange items i (items.size-1) hi (by omega)) k l := by
        rw [atMost_exchange,Equiv.swap_apply_of_ne_of_ne hk (by omega),
          Equiv.swap_apply_of_ne_of_ne hl (by omega)]
        exact hle
      exact hle'.pop
    · exact .of_size_le (by simpa using hsize)
  refine ⟨fun c hc hci hpc => hlast _ _ hpc hci (parent_lt hc) (h c hc),fun h0 c hc hp => ?_⟩
  have hpi := parent_lt h0
  have hic := parent_lt hc
  have hle : AtMost items (parent i) c := (h i h0).trans hi (hp ▸ h c hc)
  exact hlast _ _ (by omega) (by omega) (by omega) hle

theorem Ordered.takenOff_last (h : Ordered items) (hi : i < items.size)
    (hlast : ¬i < items.size-1) : Ordered (takenOff items i hi) := by
  refine (h.disturbed_takenOff hi).ordered (fun _ => .of_size_le ?_) fun c hc hp => .of_size_le ?_
  · simpa using hlast
  · have hic := parent_lt hc
    rw [size_takenOff]
    omega

theorem Placed.takenOff (h : Placed items) (hi : i < items.size) :
    Placed (takenOff items i hi) := by
  intro k hk
  have hexchanged : Placed (PriorityQueue.exchange items i (items.size-1) hi (by omega)) :=
    h.exchange _ _
  simp only [PriorityQueue.takenOff,Array.getElem_pop]
  exact hexchanged k _

theorem WellFormed.remove (h : q.WellFormed) {x : QueueItem α} {r : PriorityQueue α}
    (hr : q.remove i = some (x,r)) : r.WellFormed := by
  have hordered := ordered_iff.mpr h.ordered
  have hi := lt_of_remove hr
  have hfits := h.fits
  rw [remove_of_lt hi] at hr
  cases hr
  by_cases hlast : i < q.items.size-1
  · simp only [hlast,if_true]
    exact {
      ordered := ordered_iff.mp (ordered_settle (hordered.disturbed_takenOff hi))
      placed := (Placed.takenOff h.placed hi).settle i
      fits := by simp only [size,size_settle,size_takenOff] at hfits ⊢; omega
      room := h.room }
  · simp only [hlast,if_false]
    exact {
      ordered := ordered_iff.mp (hordered.takenOff_last hi hlast)
      placed := Placed.takenOff h.placed hi
      fits := by simp only [size,size_takenOff] at hfits ⊢; omega
      room := h.room }

theorem WellFormed.pop (h : q.WellFormed) {x : QueueItem α} {r : PriorityQueue α}
    (hr : q.pop = some (x,r)) : r.WellFormed := by
  obtain ⟨⟨x',r'⟩,hremove,hr⟩ := Option.map_eq_some_iff.mp hr
  have hr' := h.remove hremove
  dsimp only at hr
  split at hr
  · rename_i hhalf
    cases hr
    exact {
      ordered := hr'.ordered
      placed := hr'.placed
      fits := Nat.le_of_lt hhalf.1
      room := by have := hhalf.2; simp only [minCapacity] at this; dsimp only; omega }
  · cases hr
    exact hr'

theorem atMost_set {x : QueueItem α} {hi : i < items.size} {k l : Nat} (hk : k ≠ i) (hl : l ≠ i)
    (h : AtMost items k l) : AtMost (items.set i x hi) k l := by
  intro hk' hl'
  have hk'' : k < items.size := by simpa using hk'
  have hl'' : l < items.size := by simpa using hl'
  rw [Array.getElem_set_ne hi hk'' (Ne.symm hk),Array.getElem_set_ne hi hl'' (Ne.symm hl)]
  exact h hk'' hl''

theorem Ordered.disturbed_set (h : Ordered items) (x : QueueItem α) (hi : i < items.size) :
    Disturbed (items.set i x hi) i where
  apart := fun c hc hci hpc => atMost_set hpc hci (h c hc)
  across := fun h0 c hc hp => by
    have hpi := parent_lt h0
    have hic := parent_lt hc
    exact atMost_set (by omega) (by omega) ((h i h0).trans hi (hp ▸ h c hc))

theorem Placed.set (h : Placed items) (hi : i < items.size) (p : Int64) :
    Placed (items.set i { items[i] with priority := p } hi) := by
  intro k hk
  have hk' : k < items.size := by simpa using hk
  by_cases hki : i = k
  · subst hki
    simpa using h i hi
  · rw [Array.getElem_set_ne _ _ hki]
    exact h k hk'

theorem WellFormed.update (h : q.WellFormed) {p : Int64} {r : PriorityQueue α}
    (hr : q.update i p = some (r,j)) : r.WellFormed := by
  simp only [PriorityQueue.update] at hr
  split at hr
  · rename_i hi
    cases hr
    exact {
      ordered := ordered_iff.mp (ordered_settle ((ordered_iff.mpr h.ordered).disturbed_set _ hi))
      placed := (Placed.set h.placed hi p).settle i
      fits := by have := h.fits; simpa [size] using this
      room := h.room }
  · cases hr

end PriorityQueue

/-- What is done with a queue. -/
inductive QueueAction (α : Type) where
  | push (value : α) (priority : Int64)
  | pop
  | remove (i : Nat)
  | update (i : Nat) (priority : Int64)
  deriving DecidableEq,Repr

namespace PriorityQueue

variable {α : Type}

/-- The queue afterwards, the same one if there was nothing to take or to change. -/
def act (q : PriorityQueue α) : QueueAction α → PriorityQueue α
  | .push v p => (q.push v p).1
  | .pop => (q.pop.map Prod.snd).getD q
  | .remove i => ((q.remove i).map Prod.snd).getD q
  | .update i p => ((q.update i p).map Prod.fst).getD q

def play (q : PriorityQueue α) (xs : List (QueueAction α)) : PriorityQueue α := xs.foldl act q

variable {q : PriorityQueue α}

theorem WellFormed.act (h : q.WellFormed) (x : QueueAction α) : (q.act x).WellFormed := by
  cases x with
  | push v p => exact h.push v p
  | pop =>
    simp only [PriorityQueue.act]
    cases hr : q.pop with
    | none => exact h
    | some r => exact h.pop hr
  | remove i =>
    simp only [PriorityQueue.act]
    cases hr : q.remove i with
    | none => exact h
    | some r => exact h.remove hr
  | update i p =>
    simp only [PriorityQueue.act]
    cases hr : q.update i p with
    | none => exact h
    | some r => exact h.update hr

theorem WellFormed.play (h : q.WellFormed) (xs : List (QueueAction α)) :
    (q.play xs).WellFormed := by
  induction xs generalizing q with
  | nil => exact h
  | cons x xs ih => exact ih (h.act x)

/-- Whatever is done with a queue of any capacity, the heap order holds, each item knows its
position, and the items fit into the capacity. -/
theorem wellFormed_play_withCapacity (n : Nat) (xs : List (QueueAction α)) :
    let q := (withCapacity n : PriorityQueue α).play xs
    (∀ i (h : i < q.items.size), 0 < i → q.items[(i-1)/2].priority ≤ q.items[i].priority) ∧
      (∀ i (h : i < q.items.size), q.items[i].index = i) ∧ q.size ≤ q.capacity := by
  intro q
  have h : q.WellFormed := (wellFormed_withCapacity n).play xs
  exact ⟨h.ordered,h.placed,h.fits⟩

end PriorityQueue
end ClusterFramework
