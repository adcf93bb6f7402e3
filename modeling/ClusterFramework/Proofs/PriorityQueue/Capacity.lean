import ClusterFramework.Proofs.PriorityQueue.Order
import Mathlib.Tactic.Ring

/-! How the capacity of a queue changes. Only a pop halves it, and only from above `minCapacity`;
but a half may well be less than `minCapacity`. So which capacities a queue can come to depends
on the one it starts from: the floor holds in every run just if that one, halved or doubled over
and over, meets `minCapacity` itself. -/
namespace ClusterFramework
namespace PriorityQueue

variable {α : Type} {q r : PriorityQueue α} {x : QueueItem α}

@[simp] theorem capacity_withCapacity (n : Nat) :
    (withCapacity n : PriorityQueue α).capacity = max n 1 := rfl

theorem capacity_push (q : PriorityQueue α) (v : α) (p : Int64) :
    (q.push v p).1.capacity = if q.size = q.capacity then 2*q.capacity else q.capacity := rfl

theorem size_remove {i : Nat} (h : q.remove i = some (x,r)) : r.size+1 = q.size := by
  have hi := lt_of_remove h
  rw [remove_of_lt hi,Option.some_inj,Prod.mk.injEq] at h
  obtain ⟨_,rfl⟩ := h
  by_cases hlast : i < q.items.size-1
  · simp only [hlast,if_true,size,size_settle,size_takenOff]
    omega
  · simp only [hlast,if_false,size,size_takenOff]
    omega

theorem capacity_remove {i : Nat} (h : q.remove i = some (x,r)) : r.capacity = q.capacity := by
  have hi := lt_of_remove h
  rw [remove_of_lt hi,Option.some_inj,Prod.mk.injEq] at h
  obtain ⟨_,rfl⟩ := h
  rfl

theorem size_capacity_pop (h : q.pop = some (x,r)) : r.size+1 = q.size ∧
    r.capacity = if r.size < q.capacity/2 ∧ minCapacity < q.capacity then q.capacity/2
      else q.capacity := by
  obtain ⟨⟨x',r'⟩,hremove,h⟩ := Option.map_eq_some_iff.mp h
  have hsize := size_remove hremove
  have hcapacity := capacity_remove hremove
  dsimp only at h
  rw [hcapacity] at h
  split at h
  case isTrue hhalf =>
    cases h
    exact ⟨hsize,(if_pos hhalf).symm⟩
  case isFalse hhalf =>
    cases h
    rw [if_neg hhalf]
    exact ⟨hsize,hcapacity⟩

theorem capacity_update {i j : Nat} {p : Int64} (h : q.update i p = some (r,j)) :
    r.capacity = q.capacity := by
  unfold update at h
  split at h
  · cases h; rfl
  · cases h

theorem act_pop (h : q.pop = some (x,r)) : q.act .pop = r := by
  rw [act,h]
  rfl

theorem act_pop_of_none (h : q.pop = none) : q.act .pop = q := by
  rw [act,h]
  rfl

theorem exists_pop (h : 0 < q.size) : ∃ x r, q.pop = some (x,r) := by
  cases hpop : q.pop with
  | none =>
    have := (pop_eq_none_iff q).mp hpop
    omega
  | some y => exact ⟨y.1,y.2,rfl⟩

/-- The capacity stays, doubles or is halved. -/
theorem capacity_act (q : PriorityQueue α) (a : QueueAction α) :
    (q.act a).capacity = q.capacity ∨ (q.act a).capacity = 2*q.capacity ∨
      a = .pop ∧ minCapacity < q.capacity ∧ (q.act a).capacity = q.capacity/2 := by
  cases a with
  | push v p =>
    rw [act,capacity_push]
    split
    · exact .inr (.inl rfl)
    · exact .inl rfl
  | pop =>
    cases hpop : q.pop with
    | none => exact .inl (by rw [act_pop_of_none hpop])
    | some y =>
      obtain ⟨_,hcapacity⟩ := size_capacity_pop hpop
      rw [act_pop hpop,hcapacity]
      split
      case isTrue hhalf => exact .inr (.inr ⟨rfl,hhalf.2,rfl⟩)
      case isFalse => exact .inl rfl
  | remove i =>
    refine .inl ?_
    rw [act]
    cases hremove : q.remove i with
    | none => rfl
    | some y => exact capacity_remove hremove
  | update i p =>
    refine .inl ?_
    rw [act]
    cases hupdate : q.update i p with
    | none => rfl
    | some y => exact capacity_update hupdate

theorem pop_of_capacity_lt {a : QueueAction α} (h : (q.act a).capacity < q.capacity) :
    a = .pop ∧ minCapacity < q.capacity := by
  obtain hsame | hdouble | ⟨ha,hlarge,_⟩ := q.capacity_act a
  · omega
  · omega
  · exact ⟨ha,hlarge⟩

/-- A pop leaves less than `minCapacity` just if it halves less than twice as much. -/
theorem capacity_pop_lt_iff (h : q.pop = some (x,r)) (hfloor : minCapacity ≤ q.capacity) :
    r.capacity < minCapacity ↔
      minCapacity < q.capacity ∧ q.capacity < 2*minCapacity ∧ r.size < q.capacity/2 := by
  obtain ⟨_,hcapacity⟩ := size_capacity_pop h
  rw [hcapacity]
  split <;> omega

theorem half_le_capacity_pop (h : q.pop = some (x,r)) (hfloor : minCapacity ≤ q.capacity) :
    minCapacity/2 ≤ r.capacity := by
  obtain ⟨_,hcapacity⟩ := size_capacity_pop h
  rw [hcapacity]
  split <;> omega

/-- Halved often enough, or doubled, the capacity is `minCapacity`. -/
def HalvesToFloor (c : Nat) : Prop := ∃ k, c/2^k = minCapacity ∨ c*2^k = minCapacity

theorem halvesToFloor_minCapacity : HalvesToFloor minCapacity := ⟨0,.inl (by decide)⟩

namespace HalvesToFloor

variable {c : Nat}

theorem double (h : HalvesToFloor c) : HalvesToFloor (2*c) := by
  obtain ⟨k,hdown | hup⟩ := h
  · refine ⟨k+1,.inl ?_⟩
    rw [pow_succ',Nat.mul_div_mul_left _ _ (by decide)]
    exact hdown
  · cases k with
    | zero => exact ⟨1,.inl (by omega)⟩
    | succ k =>
      refine ⟨k,.inr ?_⟩
      rw [← hup,pow_succ]
      ring

theorem of_double (h : HalvesToFloor (2*c)) (hc : 2*c ≤ minCapacity) : HalvesToFloor c := by
  obtain ⟨k,hdown | hup⟩ := h
  · have hle := Nat.div_le_self (2*c) (2^k)
    exact ⟨1,.inr (by omega)⟩
  · refine ⟨k+1,.inr ?_⟩
    rw [← hup,pow_succ]
    ring

theorem exists_half (h : HalvesToFloor c) (hc : minCapacity < c) :
    ∃ k, c/2/2^k = minCapacity := by
  obtain ⟨k,hdown | hup⟩ := h
  · cases k with
    | zero =>
      rw [pow_zero,Nat.div_one] at hdown
      omega
    | succ k =>
      refine ⟨k,?_⟩
      rw [Nat.div_div_eq_div_mul,← pow_succ']
      exact hdown
  · have hle := Nat.le_mul_of_pos_right c (Nat.two_pow_pos k)
    omega

theorem half (h : HalvesToFloor c) (hc : minCapacity < c) : HalvesToFloor (c/2) := by
  obtain ⟨k,hk⟩ := h.exists_half hc
  exact ⟨k,.inl hk⟩

theorem floor_le_half (h : HalvesToFloor c) (hc : minCapacity < c) : minCapacity ≤ c/2 := by
  obtain ⟨k,hk⟩ := h.exists_half hc
  exact hk ▸ Nat.div_le_self _ _

theorem of_half (h : HalvesToFloor (c/2)) (hc : minCapacity ≤ c/2) : HalvesToFloor c := by
  obtain ⟨k,hdown | hup⟩ := h
  · refine ⟨k+1,.inl ?_⟩
    rw [pow_succ',← Nat.div_div_eq_div_mul]
    exact hdown
  · have hle := Nat.le_mul_of_pos_right (c/2) (Nat.two_pow_pos k)
    exact ⟨1,.inl (by omega)⟩

theorem act (h : HalvesToFloor q.capacity) (a : QueueAction α) :
    HalvesToFloor (q.act a).capacity := by
  obtain hsame | hdouble | ⟨_,hlarge,hhalf⟩ := q.capacity_act a
  · rwa [hsame]
  · rw [hdouble]
    exact h.double
  · rw [hhalf]
    exact h.half hlarge

theorem play (h : HalvesToFloor q.capacity) (as : List (QueueAction α)) :
    HalvesToFloor (q.play as).capacity := by
  induction as generalizing q with
  | nil => exact h
  | cons a as ih => exact ih (h.act a)

end HalvesToFloor

/-- No pop takes the capacity from `minCapacity` or more to less. -/
def KeepsFloor (q : PriorityQueue α) : Prop :=
  ∀ x r, q.pop = some (x,r) → minCapacity ≤ q.capacity → minCapacity ≤ r.capacity

theorem HalvesToFloor.keepsFloor (h : HalvesToFloor q.capacity) : q.KeepsFloor := by
  intro x r hpop hfloor
  obtain ⟨_,hcapacity⟩ := size_capacity_pop hpop
  rw [hcapacity]
  split
  case isTrue hhalf => exact h.floor_le_half hhalf.2
  case isFalse => exact hfloor

/-- Whatever is done with the queue, no pop takes its capacity below the floor. -/
def Floored (q : PriorityQueue α) : Prop := ∀ as : List (QueueAction α), (q.play as).KeepsFloor

theorem HalvesToFloor.floored (h : HalvesToFloor q.capacity) : q.Floored :=
  fun as => (h.play as).keepsFloor

/-- A queue of the usual capacity never falls below it. -/
theorem floored_empty : (empty : PriorityQueue α).Floored :=
  halvesToFloor_minCapacity.floored

theorem floored_of_isEmpty [IsEmpty α] : q.Floored :=
  fun _ x => isEmptyElim x.value

namespace Floored

theorem keepsFloor (h : q.Floored) : q.KeepsFloor := h []

theorem act (h : q.Floored) (a : QueueAction α) : (q.act a).Floored := fun as => h (a :: as)

theorem exists_pop (h : q.Floored) (hpos : 0 < q.size) :
    ∃ r : PriorityQueue α, r.Floored ∧ r.size+1 = q.size ∧
      (r.capacity = if r.size < q.capacity/2 ∧ minCapacity < q.capacity then q.capacity/2
        else q.capacity) ∧ (minCapacity ≤ q.capacity → minCapacity ≤ r.capacity) := by
  obtain ⟨x,r,hpop⟩ := PriorityQueue.exists_pop hpos
  obtain ⟨hsize,hcapacity⟩ := size_capacity_pop hpop
  exact ⟨r,act_pop hpop ▸ h.act .pop,hsize,hcapacity,h.keepsFloor x r hpop⟩

variable [Inhabited α]

theorem exists_push (h : q.Floored) : ∃ r : PriorityQueue α, r.Floored ∧ r.size = q.size+1 ∧
    r.capacity = if q.size = q.capacity then 2*q.capacity else q.capacity :=
  ⟨(q.push default 0).1,h.act (.push default 0),q.size_push default 0,rfl⟩

/-- Pushes fill a queue up without doubling it. -/
theorem exists_full (h : q.Floored) (hfits : q.size ≤ q.capacity) :
    ∃ r : PriorityQueue α, r.Floored ∧ r.size = r.capacity ∧ r.capacity = q.capacity := by
  induction hroom : q.capacity-q.size generalizing q with
  | zero => exact ⟨q,h,by omega,rfl⟩
  | succ n ih =>
    obtain ⟨d,hd,hsize,hcapacity⟩ := h.exists_push
    rw [if_neg (by omega)] at hcapacity
    obtain ⟨r,hr,hfull,hsame⟩ := ih hd (by omega) (by omega)
    exact ⟨r,hr,hfull,hsame.trans hcapacity⟩

/-- One more item doubles a full queue. If that takes it past the floor, the second of two pops
takes it back below, so a full queue comes to the floor by doubling alone. -/
theorem halvesToFloor_of_full (h : q.Floored) (hfull : q.size = q.capacity)
    (hpos : 0 < q.capacity) (hsmall : q.capacity ≤ minCapacity) : HalvesToFloor q.capacity := by
  induction hroom : minCapacity-q.capacity using Nat.strongRecOn generalizing q with
  | ind n ih =>
    subst hroom
    obtain hfloor | hbelow := hsmall.eq_or_lt
    · exact hfloor ▸ halvesToFloor_minCapacity
    obtain ⟨d,hd,hsize,hcapacity⟩ := h.exists_push
    rw [if_pos hfull] at hcapacity
    obtain hlarge | hfits := Nat.lt_or_ge minCapacity (2*q.capacity)
    · obtain ⟨d',hd',hsize',hcapacity',_⟩ := hd.exists_pop (by omega)
      rw [if_neg (by omega)] at hcapacity'
      obtain ⟨r,_,hsize'',hcapacity'',hkept⟩ := hd'.exists_pop (by omega)
      rw [if_pos (by omega)] at hcapacity''
      omega
    · obtain ⟨r,hr,hrfull,hrcapacity⟩ := hd.exists_full (by omega)
      have hdouble := ih (minCapacity-r.capacity) (by omega) hr hrfull (by omega) (by omega) rfl
      rw [hrcapacity,hcapacity] at hdouble
      exact hdouble.of_double hfits

/-- A push and a pop halve an empty queue whose capacity is above the floor. -/
theorem halvesToFloor_of_empty (h : q.Floored) (hempty : q.size = 0)
    (hlarge : minCapacity ≤ q.capacity) : HalvesToFloor q.capacity := by
  induction hc : q.capacity using Nat.strongRecOn generalizing q with
  | ind c ih =>
    subst hc
    obtain hfloor | habove := hlarge.eq_or_lt
    · exact hfloor ▸ halvesToFloor_minCapacity
    have hpos : 0 < q.capacity/2 := by unfold minCapacity at habove; omega
    obtain ⟨d,hd,hsize,hcapacity⟩ := h.exists_push
    rw [if_neg (by omega)] at hcapacity
    obtain ⟨r,hr,hsize',hcapacity',hkept⟩ := hd.exists_pop (by omega)
    rw [hcapacity,if_pos (by omega)] at hcapacity'
    have hfloor := hkept (by omega)
    have hhalf := ih r.capacity (by omega) hr (by omega) hfloor rfl
    rw [hcapacity'] at hhalf hfloor
    exact hhalf.of_half hfloor

end Floored

theorem floored_withCapacity_iff (n : Nat) :
    (withCapacity n : PriorityQueue α).Floored ↔ IsEmpty α ∨ HalvesToFloor (max n 1) := by
  constructor
  · intro h
    refine (isEmpty_or_nonempty α).imp_right fun ⟨v⟩ => ?_
    have : Inhabited α := ⟨v⟩
    obtain hsmall | hlarge := Nat.le_total (max n 1) minCapacity
    · obtain ⟨r,hr,hfull,hcapacity⟩ := h.exists_full (by simp)
      rw [capacity_withCapacity] at hcapacity
      have hr := hr.halvesToFloor_of_full hfull (by omega) (by omega)
      rwa [hcapacity] at hr
    · exact h.halvesToFloor_of_empty (size_withCapacity n) hlarge
  · rintro (hempty | h)
    · exact floored_of_isEmpty
    · exact HalvesToFloor.floored h

/-- Of all that can be done with a queue only a pop reduces its capacity, and only one from above
`minCapacity`. It may leave less than that, though never less than half of it; whether it ever
does depends on the capacity the queue was made with. -/
theorem capacity_of_actions (α : Type) (n : Nat) :
    (∀ as : List (QueueAction α), let q := (withCapacity n).play as
      (∀ a, (q.act a).capacity < q.capacity → a = .pop ∧ minCapacity < q.capacity) ∧
      ∀ x r, q.pop = some (x,r) → minCapacity ≤ q.capacity →
        minCapacity/2 ≤ r.capacity ∧
        (r.capacity < minCapacity ↔
          minCapacity < q.capacity ∧ q.capacity < 2*minCapacity ∧ r.size < q.capacity/2)) ∧
    ((withCapacity n : PriorityQueue α).Floored ↔ IsEmpty α ∨ HalvesToFloor (max n 1)) := by
  refine ⟨fun as => ⟨fun a hless => ?shrinks,fun x r hpop hfloor => ⟨?half,?below⟩⟩,?floored⟩
  case shrinks => exact pop_of_capacity_lt hless
  case half => exact half_le_capacity_pop hpop hfloor
  case below => exact capacity_pop_lt_iff hpop hfloor
  case floored => exact floored_withCapacity_iff n

def fortyWithOne : PriorityQueue Nat := (withCapacity 40).play [.push 0 1]

theorem not_floored_forty : fortyWithOne.capacity = 40 ∧
    (∃ x r, fortyWithOne.pop = some (x,r) ∧ r.capacity = 20) ∧
    ¬ (withCapacity 40 : PriorityQueue Nat).Floored := by
  have hforty : fortyWithOne.capacity = 40 := rfl
  have hone : fortyWithOne.size = 1 := size_push (withCapacity 40) 0 1
  obtain ⟨x,r,hpop⟩ := exists_pop (q := fortyWithOne) (by omega)
  obtain ⟨hsize,hcapacity⟩ := size_capacity_pop hpop
  rw [hforty,if_pos ⟨by omega,by decide⟩] at hcapacity
  refine ⟨hforty,⟨x,r,hpop,hcapacity⟩,fun hfloored => ?_⟩
  have hkept := hfloored [.push 0 1] x r hpop (by decide)
  rw [hcapacity] at hkept
  exact absurd hkept (by decide)

end PriorityQueue
end ClusterFramework
