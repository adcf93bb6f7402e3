/-! A queue that yields its item of least priority first: a binary heap in an array, each
item knowing the position it stands at. The capacity is tracked beside the items; it doubles
when a push finds the queue full and halves when a pop leaves it less than half full. -/
namespace ClusterFramework

/-- `index` is the position the item was last put at. -/
structure QueueItem (α : Type) where
  value : α
  priority : Int64
  index : Nat
  deriving DecidableEq,Repr

structure PriorityQueue (α : Type) where
  items : Array (QueueItem α)
  capacity : Nat
  deriving Repr

namespace PriorityQueue

variable {α : Type}

/-- From this capacity on, a pop may halve it. -/
def minCapacity : Nat := 32

def withCapacity (n : Nat) : PriorityQueue α := ⟨#[],max n 1⟩

def empty : PriorityQueue α := withCapacity minCapacity

def size (q : PriorityQueue α) : Nat := q.items.size

def isEmpty (q : PriorityQueue α) : Bool := q.items.isEmpty

def peek? (q : PriorityQueue α) : Option (QueueItem α) := q.items[0]?

def exchange (items : Array (QueueItem α)) (i j : Nat) (hi : i < items.size)
    (hj : j < items.size) : Array (QueueItem α) :=
  (items.set i { items[j] with index := i } hi).set j { items[i] with index := j } (by simpa)

@[simp] theorem size_exchange (items : Array (QueueItem α)) (i j : Nat) (hi : i < items.size)
    (hj : j < items.size) : (exchange items i j hi hj).size = items.size := by
  simp [exchange]

def siftUp (items : Array (QueueItem α)) (i : Nat) : Array (QueueItem α) × Nat :=
  if h : 0 < i ∧ i < items.size then
    if items[(i-1)/2].priority ≤ items[i].priority then (items,i)
    else siftUp (exchange items ((i-1)/2) i (by omega) h.2) ((i-1)/2)
  else (items,i)
  termination_by i

/-- The child of `i` with the lesser priority, the left one if they are equal. -/
def lesserChild? (items : Array (QueueItem α)) (i : Nat) : Option (Fin items.size) :=
  if h : 2*i+2 < items.size then
    if items[2*i+2].priority < items[2*i+1].priority then some ⟨2*i+2,h⟩
    else some ⟨2*i+1,by omega⟩
  else if h : 2*i+1 < items.size then some ⟨2*i+1,h⟩
  else none

theorem lt_of_lesserChild? {items : Array (QueueItem α)} {i : Nat} {c : Fin items.size}
    (h : lesserChild? items i = some c) : i < c.val := by
  unfold lesserChild? at h
  split at h
  · split at h <;> cases h <;> simp only <;> omega
  · split at h
    · cases h; simp only; omega
    · cases h

def siftDown (items : Array (QueueItem α)) (i : Nat) : Array (QueueItem α) × Nat :=
  match h : lesserChild? items i with
  | none => (items,i)
  | some c =>
    have hlt := lt_of_lesserChild? h
    if items[i].priority ≤ items[c].priority then (items,i)
    else siftDown (exchange items i c (by omega) c.isLt) c
  termination_by items.size-i
  decreasing_by
    have := c.isLt
    simp only [size_exchange]
    omega

@[simp] theorem size_siftUp (items : Array (QueueItem α)) (i : Nat) :
    (siftUp items i).1.size = items.size := by
  fun_induction siftUp items i with
  | case1 => rfl
  | case2 items i h _ ih => simpa using ih
  | case3 => rfl

@[simp] theorem size_siftDown (items : Array (QueueItem α)) (i : Nat) :
    (siftDown items i).1.size = items.size := by
  fun_induction siftDown items i with
  | case1 => rfl
  | case2 => rfl
  | case3 items i c h _ _ ih => simpa using ih

def settle (items : Array (QueueItem α)) (i : Nat) : Array (QueueItem α) × Nat :=
  let (moved,j) := siftDown items i
  if j = i then siftUp moved i else (moved,j)

@[simp] theorem size_settle (items : Array (QueueItem α)) (i : Nat) :
    (settle items i).1.size = items.size := by
  unfold settle
  have h := size_siftDown items i
  generalize siftDown items i = r at h
  obtain ⟨moved,j⟩ := r
  simp only
  split <;> simp_all

/-- The queue with one more item, and where that item stands now. -/
def push (q : PriorityQueue α) (value : α) (priority : Int64) : PriorityQueue α × Nat :=
  let capacity := if q.size = q.capacity then 2*q.capacity else q.capacity
  let (items,i) := siftUp (q.items.push ⟨value,priority,q.size⟩) q.size
  (⟨items,capacity⟩,i)

/-- Swaps the item at `i` with the last one and takes it off there. -/
def remove (q : PriorityQueue α) (i : Nat) : Option (QueueItem α × PriorityQueue α) :=
  if h : i < q.items.size then
    let items := exchange q.items i (q.items.size-1) h (by omega)
    let rest := items.pop
    some ({ q.items[i] with index := q.items.size-1 },
      ⟨if i < rest.size then (settle rest i).1 else rest,q.capacity⟩)
  else none

def pop (q : PriorityQueue α) : Option (QueueItem α × PriorityQueue α) :=
  (q.remove 0).map fun (item,q) =>
    if q.size < q.capacity/2 ∧ minCapacity < q.capacity then (item,⟨q.items,q.capacity/2⟩)
    else (item,q)

/-- The items of `n` pops, as long as there are any. -/
def popMany : Nat → PriorityQueue α → List (QueueItem α) × PriorityQueue α
  | 0, q => ([],q)
  | n+1, q =>
    match q.pop with
    | none => ([],q)
    | some (x,q) => let (xs,q) := popMany n q; (x :: xs,q)

/-- Gives the item at `i` another priority; the position is where it stands afterwards. -/
def update (q : PriorityQueue α) (i : Nat) (priority : Int64) :
    Option (PriorityQueue α × Nat) :=
  if h : i < q.items.size then
    let (items,j) := settle (q.items.set i { q.items[i] with priority := priority } h) i
    some (⟨items,q.capacity⟩,j)
  else none

def layout (q : PriorityQueue α) : List (α × Int64) :=
  q.items.toList.map fun x => (x.value,x.priority)

@[simp] theorem size_withCapacity (n : Nat) : (withCapacity n : PriorityQueue α).size = 0 := rfl

@[simp] theorem size_push (q : PriorityQueue α) (v : α) (p : Int64) :
    (q.push v p).1.size = q.size+1 := by
  simp [push,size]

theorem remove_eq_none_iff (q : PriorityQueue α) (i : Nat) :
    q.remove i = none ↔ q.size ≤ i := by
  simp [remove,size]

theorem update_eq_none_iff (q : PriorityQueue α) (i : Nat) (p : Int64) :
    q.update i p = none ↔ q.size ≤ i := by
  simp [update,size]

theorem pop_eq_none_iff (q : PriorityQueue α) : q.pop = none ↔ q.size = 0 := by
  simp [pop,remove_eq_none_iff]

end PriorityQueue
end ClusterFramework
