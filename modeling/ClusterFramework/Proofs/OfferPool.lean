import ClusterFramework.OfferPool
import Mathlib.Data.List.Induction
import Mathlib.Data.List.Perm.Basic

/-! Where the offers of a batch go. Until the next batch each of them is held, was handed out or
was withdrawn, so an id is held and handed out at most as often as the batch names it. The pool
does not look for ids that a batch names twice. -/
namespace ClusterFramework

inductive PoolAction where
  | replace (batch : List Offer)
  | assign (t : Task)
  | rescind (id : OfferId)
  | clear
  deriving DecidableEq,Repr

/-- A pool with what became of the other offers of its latest batch: handed out to tasks, or
rescinded and cleared away. -/
structure Dealing where
  batch : List Offer
  pool : OfferPool
  handedOut : List HeldOffer
  withdrawn : List HeldOffer
  deriving DecidableEq,Repr

namespace Dealing

def start : Dealing := ⟨[],[],[],[]⟩

def act (d : Dealing) : PoolAction → Dealing
  | .replace batch => ⟨batch,.ofBatch batch,[],[]⟩
  | .assign t =>
    match d.pool.assign? t with
    | none => d
    | some (taken,rest) => { d with pool := rest, handedOut := d.handedOut ++ [taken] }
  | .rescind id =>
    { d with
      pool := (d.pool.rescind id).2
      withdrawn := d.withdrawn ++ d.pool.filter fun h => h.id = some id }
  | .clear => { d with pool := [], withdrawn := d.withdrawn ++ d.pool }

def play (d : Dealing) (xs : List PoolAction) : Dealing := xs.foldl act d

@[simp] theorem play_nil (d : Dealing) : d.play [] = d := rfl

@[simp] theorem play_concat (d : Dealing) (xs : List PoolAction) (x : PoolAction) :
    d.play (xs ++ [x]) = (d.play xs).act x := List.foldl_concat ..

def offers (d : Dealing) : List Offer :=
  (d.handedOut ++ d.withdrawn ++ d.pool).map HeldOffer.offer

/-- No offer is lost and none comes up twice, unless the batch has it twice. -/
def Accounted (d : Dealing) : Prop := d.offers.Perm d.batch

variable {d : Dealing}

theorem accounted_start : start.Accounted := .nil

theorem offers_replace (d : Dealing) (batch : List Offer) :
    (d.act (.replace batch)).offers = batch := by
  have hid : HeldOffer.offer ∘ HeldOffer.ofOffer = id := funext HeldOffer.ofOffer_offer
  simp [offers,act,OfferPool.ofBatch,hid]

theorem batch_assign (d : Dealing) (t : Task) : (d.act (.assign t)).batch = d.batch := by
  simp only [act]
  split <;> rfl

theorem perm_offers_assign (d : Dealing) (t : Task) :
    (d.act (.assign t)).offers.Perm d.offers := by
  simp only [act]
  cases h : d.pool.assign? t with
  | none => exact .refl _
  | some dealt =>
    obtain ⟨taken,rest⟩ := dealt
    obtain ⟨front,held,back,hpool,hrest,htaken,-,-⟩ := OfferPool.assign?_split h
    have hoffer : taken.offer = held.offer := by simp [htaken]
    apply List.perm_iff_count.mpr
    intro o
    simp only [offers,hpool,hrest,List.map_append,List.map_cons,List.map_nil,hoffer,
      List.count_append,List.count_cons,List.count_nil]
    omega

theorem perm_offers_rescind (d : Dealing) (id : OfferId) :
    (d.act (.rescind id)).offers.Perm d.offers := by
  have hsplit : (d.pool.filter (fun h => h.id = some id) ++ (d.pool.rescind id).2).Perm d.pool := by
    simpa [OfferPool.rescind] using List.filter_append_perm (fun h => h.id = some id) d.pool
  have h := (hsplit.append_left (d.handedOut ++ d.withdrawn)).map HeldOffer.offer
  simpa only [offers,act,List.append_assoc] using h

theorem offers_clear (d : Dealing) : (d.act .clear).offers = d.offers := by
  simp [offers,act]

theorem Accounted.act (h : d.Accounted) (x : PoolAction) : (d.act x).Accounted := by
  cases x with
  | replace batch => exact .of_eq (d.offers_replace batch)
  | assign t =>
    rw [Accounted,d.batch_assign t]
    exact (d.perm_offers_assign t).trans h
  | rescind id => exact (d.perm_offers_rescind id).trans h
  | clear => exact (List.Perm.of_eq d.offers_clear).trans h

theorem Accounted.play (h : d.Accounted) (xs : List PoolAction) : (d.play xs).Accounted := by
  induction xs generalizing d with
  | nil => exact h
  | cons x xs ih => exact ih (h.act x)

def handedOutIds (d : Dealing) : List OfferId := d.handedOut.filterMap HeldOffer.id

def batchIds (d : Dealing) : List OfferId := d.batch.filterMap Offer.id

theorem Accounted.ids_perm (h : d.Accounted) :
    (d.handedOutIds ++ d.withdrawn.filterMap HeldOffer.id ++ d.pool.ids).Perm d.batchIds := by
  have hids : d.offers.filterMap Offer.id =
      (d.handedOut ++ d.withdrawn ++ d.pool).filterMap HeldOffer.id := by
    rw [offers,List.filterMap_map]
    rfl
  have h := h.filterMap Offer.id
  rw [hids,List.filterMap_append,List.filterMap_append] at h
  exact h

theorem Accounted.ids_subperm (h : d.Accounted) :
    (d.handedOutIds ++ d.pool.ids).Subperm d.batchIds := by
  have hsub := (List.sublist_append_left d.handedOutIds
    (d.withdrawn.filterMap HeldOffer.id)).append_right d.pool.ids
  exact hsub.subperm.trans h.ids_perm.subperm

theorem Accounted.ids_nodup (h : d.Accounted) (hbatch : d.batchIds.Nodup) :
    (d.handedOutIds ++ d.pool.ids).Nodup := by
  obtain ⟨ids,hperm,hsub⟩ := h.ids_subperm
  exact hperm.nodup_iff.mp (hbatch.sublist hsub)

/-- A batch that has just come in is held as it is. -/
theorem ids_replace (d : Dealing) (batch : List Offer) :
    (d.act (.replace batch)).pool.ids = batch.filterMap Offer.id := by
  simp only [act,OfferPool.ids,OfferPool.ofBatch,List.filterMap_map]
  rfl

/-- The latest batch came in at some point, unless none did so far. -/
theorem batch_play (xs : List PoolAction) :
    (start.play xs).batch = [] ∨ .replace (start.play xs).batch ∈ xs := by
  induction xs using List.reverseRecOn with
  | nil => exact .inl rfl
  | append_singleton xs x ih =>
    rw [play_concat]
    have hkept (hbatch : ((start.play xs).act x).batch = (start.play xs).batch) :
        ((start.play xs).act x).batch = [] ∨
          .replace ((start.play xs).act x).batch ∈ xs ++ [x] := by
      rw [hbatch]
      exact ih.imp_right fun h => List.mem_append_left _ h
    cases x with
    | replace batch => exact .inr (by simp [act])
    | assign t => exact hkept ((start.play xs).batch_assign t)
    | rescind id => exact hkept rfl
    | clear => exact hkept rfl

/-- Whatever is done with the pool, an id is held and was handed out since the latest batch at
most as often, both together, as the batch names it. So if no batch names an id twice, none is
held twice or handed out twice; and none is ever held twice only if no batch names one twice. -/
theorem ids_of_play (xs : List PoolAction) :
    let d := start.play xs
    (∀ id, d.handedOutIds.count id + d.pool.ids.count id ≤ d.batchIds.count id) ∧
      (d.batchIds.Nodup → (d.handedOutIds ++ d.pool.ids).Nodup) ∧
      ((∀ ys, ys <+: xs → (start.play ys).pool.ids.Nodup) ↔
        ∀ batch, .replace batch ∈ xs → (batch.filterMap Offer.id).Nodup) := by
  intro d
  have haccounted : d.Accounted := accounted_start.play xs
  refine ⟨fun id => ?_,fun hnodup => ?_,fun hheld batch hbatch => ?_,fun hbatch ys hys => ?_⟩
  · have hcount := haccounted.ids_subperm.count_le id
    rwa [List.count_append] at hcount
  · exact haccounted.ids_nodup hnodup
  · obtain ⟨before,after,hsplit⟩ := List.append_of_mem hbatch
    have hprefix : before ++ [.replace batch] <+: xs := ⟨after,by simp [hsplit]⟩
    have h := hheld _ hprefix
    rwa [play_concat,ids_replace] at h
  · have hlatest : (start.play ys).batchIds.Nodup := by
      rcases batch_play ys with hnone | hsome
      · simp [batchIds,hnone]
      · exact hbatch _ (hys.subset hsome)
    have hall := (accounted_start.play ys).ids_nodup hlatest
    exact (List.nodup_append.mp hall).2.1

/-- Two processors each, under one id. -/
def namedTwice : List Offer :=
  let o : Offer :=
    { id := some ⟨"o"⟩, agentId := some ⟨"a"⟩,
      resources := [.ofScalar "cpus" ⟨0x4000000000000000⟩] }
  [o,o]

def modestTask : Task :=
  { id := "t", name := "t", resources := [.ofScalar "cpus" ⟨0x3FF0000000000000⟩] }

/-- An id that a batch names twice is held twice, and handed out to two tasks. -/
theorem handed_out_twice :
    ¬(start.play [.replace namedTwice]).pool.ids.Nodup ∧
      ¬(start.play [.replace namedTwice,.assign modestTask,.assign modestTask]).handedOutIds.Nodup := by
  decide +kernel

end Dealing
end ClusterFramework
