import ClusterFramework.Proofs.Controller.Matching
import ClusterFramework.Proofs.OfferPool

/-! Where each single offer of a batch is. Places in the batch tell equal offers apart: each of
them is held from the arrival of the batch until at some step it is handed out, rescinded under
its id or cleared away, and never comes back. -/
namespace ClusterFramework

namespace OfferPool

theorem assign?_of_split {front back : OfferPool} {h : HeldOffer} {t : Task}
    (hfront : ∀ x ∈ front, ¬x.fits t) (hfits : h.fits t) :
    assign? (front ++ h :: back) t = some (h.debit t,front ++ back) := by
  induction front with
  | nil => simp [assign?,hfits]
  | cons x front ih =>
    obtain ⟨hx,hfront⟩ := List.forall_mem_cons.mp hfront
    have hrest := ih hfront
    simp [assign?,hx,hrest]

theorem rescind_found_iff (pool : OfferPool) (id : OfferId) :
    (pool.rescind id).1 ↔ ∃ h ∈ pool, h.id = some id := by
  have hall := List.length_filter_eq_length_iff (l := pool) (p := fun h => h.id ≠ some id)
  rw [rescind,decide_eq_true_iff,ne_eq,hall]
  simp

end OfferPool

namespace Dealing

open Matching

def Undisturbed (xs : List PoolAction) (n : Nat) : Prop := ∀ batch, .replace batch ∉ xs.drop n

/-- What takes an offer out of the pool at a step. -/
inductive LeavesAt (xs : List PoolAction) (o : Offer) (n : Nat) : Prop
  | handedOut (t : Task) (rest : OfferPool) (hx : xs[n]? = some (.assign t))
      (htaken : (start.play (xs.take n)).pool.assign? t =
        some ((HeldOffer.ofOffer o).debit t,rest))
  | rescinded (id : OfferId) (hx : xs[n]? = some (.rescind id)) (hid : o.id = some id)
  | cleared (hx : xs[n]? = some .clear)

/-- When the offers of the latest batch left the pool, by their places; nothing stands for those
that are still held. -/
structure Chronicle (batch : List Offer) (xs : List PoolAction)
    (left : Fin batch.length → Option Nat) : Prop where
  /-- At each moment since the batch came in, what has not left is held as it came. -/
  held : ∀ k ≤ xs.length, Undisturbed xs k → (start.play (xs.take k)).pool =
    ((List.finRange batch.length).filter fun i => ∀ n ∈ left i, k ≤ n).map (heldAt batch)
  leaves : ∀ i, ∀ n ∈ left i, n < xs.length ∧ Undisturbed xs n ∧ LeavesAt xs (batch.get i) n
  handedOut : ∀ n t, Undisturbed xs n → xs[n]? = some (.assign t) →
    ((start.play (xs.take n)).pool.assign? t).isSome → ∃! i, left i = some n

section

variable {xs : List PoolAction} {x : PoolAction} {n : Nat}

theorem undisturbed_concat_iff (hn : n ≤ xs.length) :
    Undisturbed (xs ++ [x]) n ↔ Undisturbed xs n ∧ ∀ batch, x ≠ .replace batch := by
  simp only [Undisturbed,List.drop_append_of_le_length hn,List.mem_append,List.mem_singleton,
    not_or,forall_and,eq_comm,ne_eq]

theorem undisturbed_length (xs : List PoolAction) : Undisturbed xs xs.length := fun batch h => by
  rw [List.drop_length] at h
  cases h

theorem LeavesAt.concat {o : Offer} (h : LeavesAt xs o n) (hn : n < xs.length) :
    LeavesAt (xs ++ [x]) o n := by
  cases h with
  | handedOut t rest hx htaken =>
    refine .handedOut t rest ((List.getElem?_append_left hn).trans hx) ?_
    rw [List.take_append_of_le_length hn.le]
    exact htaken
  | rescinded id hx hid => exact .rescinded id ((List.getElem?_append_left hn).trans hx) hid
  | cleared hx => exact .cleared ((List.getElem?_append_left hn).trans hx)

end

namespace Chronicle

variable {batch : List Offer} {xs : List PoolAction} {left : Fin batch.length → Option Nat}

def staying (left : Fin batch.length → Option Nat) : List (Fin batch.length) :=
  (List.finRange batch.length).filter fun i => left i = none

theorem mem_staying {i : Fin batch.length} : i ∈ staying left ↔ left i = none := by
  simp [staying]

theorem nodup_staying (left : Fin batch.length → Option Nat) : (staying left).Nodup :=
  (List.nodup_finRange _).filter _

/-- After the last step nothing can have left. -/
theorem leaves_late_iff (h : Chronicle batch xs left) {k : Nat} (hk : xs.length ≤ k)
    (i : Fin batch.length) : (∀ n ∈ left i, k ≤ n) ↔ left i = none := by
  constructor
  · intro hlate
    rw [Option.eq_none_iff_forall_not_mem]
    intro n hn
    have hearly := (h.leaves i n hn).1
    have hlate := hlate n hn
    omega
  · intro hnone n hn
    rw [hnone] at hn
    cases hn

theorem pool_eq (h : Chronicle batch xs left) :
    (start.play xs).pool = (staying left).map (heldAt batch) := by
  have hheld := h.held xs.length le_rfl (undisturbed_length xs)
  rw [List.take_length] at hheld
  simp only [hheld,h.leaves_late_iff le_rfl,staying]

theorem extend (h : Chronicle batch xs left) {x : PoolAction} (hx : ∀ b, x ≠ .replace b)
    (leaving : Fin batch.length → Bool) (hleaving : ∀ i, leaving i → left i = none)
    (hpool : ((start.play xs).act x).pool =
      ((staying left).filter fun i => !leaving i).map (heldAt batch))
    (hleaves : ∀ i, leaving i → LeavesAt (xs ++ [x]) (batch.get i) xs.length)
    (hgiven : ∀ t, x = .assign t → ((start.play xs).pool.assign? t).isSome →
      ∃! i, leaving i = true) :
    Chronicle batch (xs ++ [x]) fun i => if leaving i then some xs.length else left i := by
  have hundisturbed {n : Nat} (hn : n ≤ xs.length) :
      Undisturbed (xs ++ [x]) n ↔ Undisturbed xs n :=
    (undisturbed_concat_iff hn).trans (and_iff_left hx)
  refine ⟨fun k hk hund => ?_,fun i n hn => ?_,fun n t hund hget hsome => ?_⟩
  · by_cases hearly : k ≤ xs.length
    · rw [List.take_append_of_le_length hearly,h.held k hearly ((hundisturbed hearly).mp hund)]
      congr 1
      refine List.filter_congr fun i _ => decide_eq_decide.mpr ?_
      cases hi : leaving i with
      | true => simp [hleaving i hi,hearly]
      | false => simp
    · have hlate : xs.length < k := Nat.lt_of_not_le hearly
      have hall : (xs ++ [x]).length ≤ k := by rwa [List.length_append,List.length_singleton]
      rw [List.take_of_length_le hall,play_concat,hpool,staying,List.filter_filter]
      congr 1
      refine List.filter_congr fun i _ => ?_
      cases hi : leaving i with
      | true => simp [hlate]
      | false => simpa using (h.leaves_late_iff hlate.le i).symm
  · rw [List.length_append,List.length_singleton]
    cases hi : leaving i with
    | true =>
      rw [hi,if_pos rfl,Option.mem_some_iff] at hn
      subst hn
      exact ⟨Nat.lt_succ_self _,(hundisturbed le_rfl).mpr (undisturbed_length xs),hleaves i hi⟩
    | false =>
      rw [hi,if_neg Bool.false_ne_true] at hn
      obtain ⟨hlt,hund,hleft⟩ := h.leaves i n hn
      exact ⟨Nat.lt_succ_of_lt hlt,(hundisturbed hlt.le).mpr hund,hleft.concat hlt⟩
  · have hn : n ≤ xs.length := by
      have hlt := (List.getElem?_eq_some_iff.mp hget).1
      rw [List.length_append,List.length_singleton] at hlt
      omega
    rw [List.take_append_of_le_length hn] at hsome
    rcases hn.lt_or_eq with hlt | rfl
    · rw [List.getElem?_append_left hlt] at hget
      have hsame : ∀ i, (if leaving i then some xs.length else left i) = some n ↔
          left i = some n := fun i => by
        cases hi : leaving i with
        | true => simp [hleaving i hi,hlt.ne']
        | false => simp
      exact (existsUnique_congr hsame).mpr
        (h.handedOut n t ((hundisturbed hn).mp hund) hget hsome)
    · have hx : x = .assign t := by simpa using hget
      have hlast : ∀ i, (if leaving i then some xs.length else left i) = some xs.length ↔
          leaving i = true := fun i => by
        have hleft : left i ≠ some xs.length := fun he =>
          absurd (h.leaves i _ he).1 (Nat.lt_irrefl _)
        cases leaving i <;> simp [hleft]
      rw [List.take_length] at hsome
      exact (existsUnique_congr hlast).mpr (hgiven t hx hsome)

theorem replace (batch : List Offer) (xs : List PoolAction) :
    Chronicle batch (xs ++ [.replace batch]) fun _ => none := by
  have hlast {n : Nat} (hund : Undisturbed (xs ++ [.replace batch]) n) : xs.length < n := by
    by_contra hn
    exact ((undisturbed_concat_iff (Nat.le_of_not_lt hn)).mp hund).2 batch rfl
  refine ⟨fun k hk hund => ?_,fun i n hn => ?_,fun n t hund hget _ => ?_⟩
  · have hall : (xs ++ [PoolAction.replace batch]).length ≤ k := by
      rw [List.length_append,List.length_singleton]
      exact hlast hund
    rw [List.take_of_length_le hall,play_concat]
    have hpool : ((start.play xs).act (.replace batch)).pool = OfferPool.ofBatch batch := rfl
    rw [hpool,← map_heldAt_finRange]
    simp
  · cases hn
  · have hlt := (List.getElem?_eq_some_iff.mp hget).1
    rw [List.length_append,List.length_singleton] at hlt
    have hafter := hlast hund
    omega

theorem assign (h : Chronicle batch xs left) (t : Task) :
    ∃ left, Chronicle batch (xs ++ [.assign t]) left := by
  have hassign := assign?_map (heldAt batch) (nodup_staying left) t
  rw [← h.pool_eq] at hassign
  cases hfind : (staying left).find? fun i => (heldAt batch i).fits t with
  | none =>
    rw [hfind,Option.map_none] at hassign
    refine ⟨_,h.extend (x := .assign t) (fun _ => nofun) (fun _ => false) nofun ?_ nofun ?_⟩
    · simp only [act,hassign]
      simpa using h.pool_eq
    · rintro _ ⟨⟩ hsome
      rw [hassign] at hsome
      cases hsome
  | some i =>
    rw [hfind,Option.map_some] at hassign
    refine ⟨_,h.extend (x := .assign t) (fun _ => nofun) (fun j => j = i) ?_ ?_ ?_ ?_⟩
    · intro j hj
      rw [of_decide_eq_true hj]
      exact mem_staying.mp (List.mem_of_find?_eq_some hfind)
    · simp [act,hassign]
    · intro j hj
      rw [of_decide_eq_true hj]
      refine .handedOut t (((staying left).filter fun j => j ≠ i).map (heldAt batch))
        List.getElem?_concat_length ?_
      rw [List.take_left]
      exact hassign
    · rintro _ ⟨⟩ _
      exact ⟨i,decide_eq_true rfl,fun j hj => of_decide_eq_true hj⟩

theorem rescind (h : Chronicle batch xs left) (id : OfferId) :
    ∃ left, Chronicle batch (xs ++ [.rescind id]) left := by
  refine ⟨_,h.extend (x := .rescind id) (fun _ => nofun)
    (fun i => left i = none ∧ (batch.get i).id = some id) ?_ ?_ ?_ fun _ => nofun⟩
  · intro i hi
    exact (of_decide_eq_true hi).1
  · have hkept : (staying left).filter (fun i => !decide (left i = none ∧ (batch.get i).id = some id)) =
        (staying left).filter fun i => (heldAt batch i).id ≠ some id :=
      List.filter_congr fun i hi => by
        by_cases hid : (batch.get i).id = some id <;>
          simp_all [mem_staying.mp hi,heldAt,HeldOffer.id]
    rw [hkept]
    simp only [act,OfferPool.rescind,h.pool_eq,List.filter_map,Function.comp_def]
  · intro i hi
    exact .rescinded id List.getElem?_concat_length (of_decide_eq_true hi).2

theorem clear (h : Chronicle batch xs left) : ∃ left, Chronicle batch (xs ++ [.clear]) left := by
  refine ⟨_,h.extend (x := .clear) (fun _ => nofun) (fun i => left i = none) ?_ ?_ ?_
    fun _ => nofun⟩
  · exact fun i hi => of_decide_eq_true hi
  · have hnone : (staying left).filter (fun i => !decide (left i = none)) = [] :=
      List.filter_eq_nil_iff.mpr fun i hi => by simp [mem_staying.mp hi]
    rw [hnone]
    rfl
  · exact fun i _ => .cleared List.getElem?_concat_length

end Chronicle

theorem exists_chronicle (xs : List PoolAction) :
    ∃ left, Chronicle (start.play xs).batch xs left := by
  induction xs using List.reverseRecOn with
  | nil =>
    exact ⟨fun _ => none,fun k _ _ => by rw [List.take_nil]; rfl,fun i => i.elim0,
      fun n t _ hget => by cases hget⟩
  | append_singleton xs x ih =>
    obtain ⟨left,h⟩ := ih
    rw [play_concat]
    cases x with
    | replace batch => exact ⟨_,.replace batch xs⟩
    | assign t =>
      rw [batch_assign]
      exact h.assign t
    | rescind id => exact h.rescind id
    | clear => exact h.clear

/-- Over every sequence of actions the pool holds offers of the latest batch, in order of arrival
and untouched, and each offer of that batch is either held or left at one step, at which it was
handed out to one task, rescinded under its id or cleared away. A task takes the first held
offer that fits it, less what it demands, and if none fits nothing changes. Rescinding an id
removes the offers that have it, and tells whether there were any. -/
theorem whereabouts_of_play (xs : List PoolAction) :
    let d := start.play xs
    d.pool.Sublist (OfferPool.ofBatch d.batch) ∧
      (∃ left : Fin d.batch.length → Option Nat, Chronicle d.batch xs left ∧
        d.pool = ((List.finRange d.batch.length).filter fun i => left i = none).map
          (heldAt d.batch)) ∧
      (∀ t, ((d.pool.assign? t).isSome ↔ ∃ h ∈ d.pool, h.fits t) ∧
        ((∀ h ∈ d.pool, ¬h.fits t) → d.act (.assign t) = d) ∧
        ∀ front h back, d.pool = front ++ h :: back → (∀ x ∈ front, ¬x.fits t) → h.fits t →
          d.pool.assign? t = some
            ({ h with
              cpu := h.cpu.sub (t.demand "cpus")
              mem := h.mem.sub (t.demand "mem")
              disk := ((t.resources.filter fun r => r.name = "disk").findSome? Resource.disk).or
                h.disk },
              front ++ back)) ∧
      ∀ id, (d.pool.rescind id).2 = d.pool.filter (fun h => h.id ≠ some id) ∧
        ((d.pool.rescind id).1 ↔ ∃ h ∈ d.pool, h.id = some id) := by
  intro d
  obtain ⟨left,hleft⟩ := exists_chronicle xs
  refine ⟨?_,⟨left,hleft,hleft.pool_eq⟩,fun t => ⟨?_,fun hnone => ?_,?_⟩,fun id => ⟨rfl,?_⟩⟩
  · rw [hleft.pool_eq,← map_heldAt_finRange]
    exact List.filter_sublist.map _
  · rw [Option.isSome_iff_ne_none,ne_eq,OfferPool.assign?_eq_none_iff]
    simp
  · have hassign : d.pool.assign? t = none :=
      (d.pool.assign?_eq_none_iff t).mpr fun h hh => Bool.eq_false_iff.mpr (hnone h hh)
    rw [act,hassign]
  · rintro front h back hpool hfront hfits
    rw [hpool]
    exact OfferPool.assign?_of_split hfront hfits
  · exact d.pool.rescind_found_iff id

end Dealing
end ClusterFramework
