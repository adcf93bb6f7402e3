import ClusterFramework.Proofs.Controller.Actions
import Mathlib.Data.List.FinRange

/-! Queued tasks meet a batch of offers as a greedy matching of tasks and places in the batch.
The pool that shrinks while tasks take offers from it holds, at every moment, the offers at
the places that are not taken yet, in order of arrival. -/
namespace ClusterFramework

/-- More of the offer than the task demands, for whatever it demands of processors and
memory, of which it has to demand at least one. -/
def StrictlyFits (o : Offer) (t : Task) : Prop :=
  (t.demands "cpus" ∨ t.demands "mem") ∧
    (t.demands "cpus" → Binary64.lt (t.demand "cpus") (scalarTotal "cpus" o.resources)) ∧
    (t.demands "mem" → Binary64.lt (t.demand "mem") (scalarTotal "mem" o.resources))

theorem HeldOffer.fits_ofOffer_iff (o : Offer) (t : Task) :
    (ofOffer o).fits t ↔ StrictlyFits o t := by
  unfold fits StrictlyFits ofOffer
  cases t.demands "cpus" <;> cases t.demands "mem" <;> simp

instance (o : Offer) (t : Task) : Decidable (StrictlyFits o t) :=
  decidable_of_iff _ (HeldOffer.fits_ofOffer_iff o t)

namespace Matching

variable (batch : List Offer)

/-- The first place, not taken before, whose offer fits the task. -/
def firstFit (taken : List (Fin batch.length)) (t : Task) : Option (Fin batch.length) :=
  (List.finRange batch.length).find? fun i => i ∉ taken ∧ StrictlyFits batch[i] t

/-- The tasks that find a place, each with the first one that is left for it. -/
def greedy : List (Fin batch.length) → List Task → List (Task × Fin batch.length)
  | _, [] => []
  | taken, t :: ts =>
    match firstFit batch taken t with
    | none => greedy taken ts
    | some i => (t,i) :: greedy (i :: taken) ts

/-- The places that are not taken, in order of arrival. -/
def free (taken : List (Fin batch.length)) : List (Fin batch.length) :=
  (List.finRange batch.length).filter fun i => i ∉ taken

def heldAt (i : Fin batch.length) : HeldOffer := .ofOffer batch[i]

/-- A match can be launched if its offer has an id and names an agent. -/
def placement (m : Task × Fin batch.length) : Option Placement := do
  pure ⟨m.1,← batch[m.2].id,← batch[m.2].agentId⟩

/-- The held offers whose ids the batch does not carry. -/
def replaced (held : OfferPool) : List OfferId :=
  (held.filterMap HeldOffer.id).filter fun id => ∀ o ∈ batch, o.id ≠ some id

section

variable {batch} {taken : List (Fin batch.length)} {ts : List Task} {t : Task}

theorem firstFit_eq_some_iff {i : Fin batch.length} :
    firstFit batch taken t = some i ↔ i ∉ taken ∧ StrictlyFits batch[i] t ∧
      ∀ j < i, j ∉ taken → ¬StrictlyFits batch[j] t := by
  rw [firstFit,List.find?_eq_some_iff_getElem]
  simp only [List.getElem_finRange,decide_eq_true_eq,Bool.not_eq_eq_eq_not,Bool.not_true,
    decide_eq_false_iff_not,not_and,and_assoc]
  refine and_congr_right fun _ => and_congr_right fun _ => ?_
  constructor
  · rintro ⟨k,hk,rfl,h⟩ j hj
    exact h j hj
  · intro h
    exact ⟨i,by simp,rfl,fun j hj => h ⟨j,Nat.lt_trans hj i.isLt⟩ hj⟩

theorem firstFit_eq_none_iff :
    firstFit batch taken t = none ↔ ∀ i ∉ taken, ¬StrictlyFits batch[i] t := by
  simp [firstFit,List.find?_eq_none]

theorem fits_of_mem_greedy {m : Task × Fin batch.length} (h : m ∈ greedy batch taken ts) :
    m.2 ∉ taken ∧ StrictlyFits batch[m.2] m.1 := by
  induction ts generalizing taken with
  | nil => cases h
  | cons t ts ih =>
    rw [greedy] at h
    cases hf : firstFit batch taken t with
    | none =>
      rw [hf] at h
      exact ih h
    | some i =>
      rw [hf] at h
      obtain ⟨hi,hfit,_⟩ := firstFit_eq_some_iff.mp hf
      rcases List.mem_cons.mp h with rfl | h
      · exact ⟨hi,hfit⟩
      · obtain ⟨hm,hfit⟩ := ih h
        exact ⟨fun ht => hm (List.mem_cons_of_mem _ ht),hfit⟩

theorem greedy_tasks_sublist : ((greedy batch taken ts).map Prod.fst).Sublist ts := by
  induction ts generalizing taken with
  | nil => exact .slnil
  | cons t ts ih =>
    rw [greedy]
    cases firstFit batch taken t with
    | none => exact ih.cons t
    | some i => exact ih.cons_cons t

theorem greedy_ids_nodup {d : TaskTable} (hd : d.Keyed) :
    ((greedy batch taken d.queued).map fun m => m.1.id).Nodup := by
  have hsub : ((greedy batch taken d.queued).map Prod.fst).Sublist d.queued :=
    greedy_tasks_sublist
  have hids := (hd.nodup_ids .queued).sublist (hsub.map Task.id)
  rwa [List.map_map] at hids

theorem greedy_places_nodup : ((greedy batch taken ts).map Prod.snd).Nodup := by
  induction ts generalizing taken with
  | nil => exact List.nodup_nil
  | cons t ts ih =>
    rw [greedy]
    cases firstFit batch taken t with
    | none => exact ih
    | some i =>
      refine List.nodup_cons.mpr ⟨fun hi => ?_,ih⟩
      obtain ⟨m,hm,rfl⟩ := List.mem_map.mp hi
      exact (fits_of_mem_greedy hm).1 List.mem_cons_self

theorem task_of_placement {m : Task × Fin batch.length} {p : Placement}
    (h : placement batch m = some p) : p.task = m.1 := by
  simp only [placement,Option.pure_def,Option.bind_eq_bind,Option.bind_eq_some_iff] at h
  obtain ⟨_,_,_,_,hp⟩ := h
  cases hp
  rfl

theorem placement_tasks_sublist (ms : List (Task × Fin batch.length)) :
    ((ms.filterMap (placement batch)).map Placement.task).Sublist (ms.map Prod.fst) := by
  induction ms with
  | nil => exact .slnil
  | cons m ms ih =>
    cases h : placement batch m with
    | none =>
      rw [List.filterMap_cons_none h]
      exact ih.cons m.1
    | some p =>
      rw [List.filterMap_cons_some h,List.map_cons,task_of_placement h]
      exact ih.cons_cons m.1

end

theorem assign?_map {ι : Type} [DecidableEq ι] (f : ι → HeldOffer) {is : List ι} (h : is.Nodup)
    (t : Task) : OfferPool.assign? (is.map f) t =
      (is.find? fun i => (f i).fits t).map fun i =>
        ((f i).debit t,(is.filter fun j => j ≠ i).map f) := by
  induction is with
  | nil => rfl
  | cons i is ih =>
    obtain ⟨hi,hrest⟩ := List.nodup_cons.mp h
    rw [List.map_cons,OfferPool.assign?,List.find?_cons]
    by_cases hf : (f i).fits t
    · have hself : (i :: is).filter (fun j => j ≠ i) = is := by
        rw [List.filter_cons_of_neg (by simp)]
        exact List.filter_eq_self.mpr fun j hj => decide_eq_true fun he => hi (he ▸ hj)
      simp only [hf,if_true,Option.map_some,hself]
    · simp only [hf,ih hrest,Option.map_map]
      cases hfind : is.find? fun i => (f i).fits t with
      | none => simp
      | some j =>
        have hj : j ∈ is := List.mem_of_find?_eq_some hfind
        have hne : i ≠ j := fun he => hi (he ▸ hj)
        simp [hne]

theorem free_nodup (taken : List (Fin batch.length)) : (free batch taken).Nodup :=
  (List.nodup_finRange _).filter _

theorem mem_free {taken : List (Fin batch.length)} {i : Fin batch.length} :
    i ∈ free batch taken ↔ i ∉ taken := by
  simp [free]

theorem free_cons (i : Fin batch.length) (taken : List (Fin batch.length)) :
    free batch (i :: taken) = (free batch taken).filter fun j => j ≠ i := by
  rw [free,free,List.filter_filter]
  refine List.filter_congr fun j _ => ?_
  simp [not_or]

theorem free_congr {taken taken' : List (Fin batch.length)}
    (h : ∀ i, i ∈ taken ↔ i ∈ taken') : free batch taken = free batch taken' := by
  rw [free,free]
  exact List.filter_congr fun i _ => decide_eq_decide.mpr (not_congr (h i))

theorem map_heldAt_finRange :
    (List.finRange batch.length).map (heldAt batch) = OfferPool.ofBatch batch := by
  have hmap : (List.finRange batch.length).map (fun i => batch[i]) = batch :=
    List.map_getElem_finRange batch
  calc (List.finRange batch.length).map (heldAt batch)
      = ((List.finRange batch.length).map fun i => batch[i]).map HeldOffer.ofOffer := by
        rw [List.map_map]; rfl
    _ = OfferPool.ofBatch batch := by rw [hmap]; rfl

theorem map_heldAt_free_nil : (free batch []).map (heldAt batch) = OfferPool.ofBatch batch := by
  have hfree : free batch [] = List.finRange batch.length :=
    List.filter_eq_self.mpr fun i _ => by simp
  rw [hfree,map_heldAt_finRange]

theorem assign?_free (taken : List (Fin batch.length)) (t : Task) :
    OfferPool.assign? ((free batch taken).map (heldAt batch)) t =
      (firstFit batch taken t).map fun i =>
        ((heldAt batch i).debit t,(free batch (i :: taken)).map (heldAt batch)) := by
  have hfind : ((free batch taken).find? fun i => (heldAt batch i).fits t) =
      firstFit batch taken t := by
    rw [free,List.find?_filter,firstFit]
    congr 1
    funext i
    simp [heldAt,HeldOffer.fits_ofOffer_iff]
  rw [assign?_map _ (free_nodup batch taken),hfind]
  simp only [free_cons]

/-- Each task takes the first free place that fits it, as in the greedy matching. -/
theorem assignAll_free (taken : List (Fin batch.length)) (ts : List Task) :
    ((OfferPool.assignAll ((free batch taken).map (heldAt batch)) ts).1.filterMap Placement.of?,
      (OfferPool.assignAll ((free batch taken).map (heldAt batch)) ts).2) =
      ((greedy batch taken ts).filterMap (placement batch),
        (free batch ((greedy batch taken ts).map Prod.snd ++ taken)).map (heldAt batch)) := by
  induction ts generalizing taken with
  | nil => rfl
  | cons t ts ih =>
    simp only [greedy,OfferPool.assignAll,assign?_free]
    cases hf : firstFit batch taken t with
    | none =>
      obtain ⟨hp,hl⟩ := Prod.mk.inj (ih taken)
      have hnone : Placement.of? (t,none) = none := rfl
      simp only [Option.map_none,List.filterMap_cons_none hnone,hp,hl]
    | some i =>
      obtain ⟨hp,hl⟩ := Prod.mk.inj (ih (i :: taken))
      have hfree : free batch ((greedy batch (i :: taken) ts).map Prod.snd ++ i :: taken) =
          free batch (i :: (greedy batch (i :: taken) ts).map Prod.snd ++ taken) :=
        free_congr batch fun j => by simp only [List.cons_append,List.mem_append,List.mem_cons]; tauto
      have hsome : Placement.of? (t,some ((heldAt batch i).debit t)) = placement batch (t,i) := rfl
      simp only [Option.map_some,List.filterMap_cons,hsome,hp,hl,hfree,List.map_cons]

theorem stale_eq_replaced (held : OfferPool) : held.stale batch = replaced batch held := by
  rw [OfferPool.stale,replaced,OfferPool.ids]
  refine List.filter_congr fun id _ => ?_
  rw [Bool.eq_iff_iff]
  simp

/-- Each place is taken by a match that can be launched, taken by one that cannot, or free. -/
theorem places_perm (ms : List (Task × Fin batch.length)) (h : (ms.map Prod.snd).Nodup) :
    ((ms.filter fun m => (placement batch m).isSome).map Prod.snd ++
      (ms.filter fun m => (placement batch m).isNone).map Prod.snd ++
      free batch (ms.map Prod.snd)).Perm (List.finRange batch.length) := by
  have hsplit : ((ms.filter fun m => (placement batch m).isSome).map Prod.snd ++
      (ms.filter fun m => (placement batch m).isNone).map Prod.snd).Perm (ms.map Prod.snd) := by
    rw [← List.map_append]
    have hnot : (fun m => (placement batch m).isNone) = fun m => !(placement batch m).isSome := by
      funext m
      simp
    rw [hnot]
    exact (List.filter_append_perm _ ms).map _
  refine (hsplit.append_right _).trans ?_
  refine (List.perm_ext_iff_of_nodup ?_ (List.nodup_finRange _)).mpr fun i => ?_
  · refine List.nodup_append.mpr ⟨h,free_nodup batch _,fun i hi j hj he => ?_⟩
    subst he
    exact (mem_free batch).mp hj hi
  · rw [List.mem_append,mem_free]
    simp only [List.mem_finRange,iff_true]
    exact em _

end Matching

namespace Session

open Matching

variable (r : Respondent) (s : Session)

section

variable (stale : List OfferId)

theorem tasks_declineStale : (s.declineStale r stale).tasks =
    if stale = [] then s.tasks else s.tasksAfter r (.order (.decline stale none)) := by
  rw [declineStale]
  split <;> simp

theorem issued_declineStale : (s.declineStale r stale).issued = s.issued ++
    if stale = [] then [] else [r.record s.issued (.order (.decline stale none))] := by
  rw [declineStale]
  split <;> simp

end

section

variable (batch : List Offer)

@[simp] theorem tasks_hold : (s.hold batch).tasks = s.tasks := rfl
@[simp] theorem issued_hold : (s.hold batch).issued = s.issued := rfl
@[simp] theorem tasks_assignQueued : s.assignQueued.2.tasks = s.tasks := rfl
@[simp] theorem issued_assignQueued : s.assignQueued.2.issued = s.issued := rfl

theorem placements_assignQueued_hold : (s.hold batch).assignQueued.1 =
    (greedy batch [] s.tasks.queued).filterMap (placement batch) := by
  have h := congrArg Prod.fst (assignAll_free batch [] s.tasks.queued)
  rw [map_heldAt_free_nil] at h
  exact h

theorem offers_assignQueued_hold : (s.hold batch).assignQueued.2.offers =
    (free batch ((greedy batch [] s.tasks.queued).map Prod.snd)).map (heldAt batch) := by
  have h := congrArg Prod.snd (assignAll_free batch [] s.tasks.queued)
  rw [map_heldAt_free_nil,List.append_nil] at h
  exact h

end

section

variable (ps : List Placement)

@[simp] theorem offers_markLaunched (p : Placement) : (s.markLaunched p).offers = s.offers :=
  offers_changeTasks ..

@[simp] theorem issued_markLaunched (p : Placement) : (s.markLaunched p).issued = s.issued :=
  issued_changeTasks ..

@[simp] theorem offers_foldl_markLaunched : (ps.foldl markLaunched s).offers = s.offers := by
  induction ps generalizing s with
  | nil => rfl
  | cons p ps ih => rw [List.foldl_cons,ih,offers_markLaunched]

@[simp] theorem issued_foldl_markLaunched : (ps.foldl markLaunched s).issued = s.issued := by
  induction ps generalizing s with
  | nil => rfl
  | cons p ps ih => rw [List.foldl_cons,ih,issued_markLaunched]

theorem offers_acceptAll : (s.acceptAll r ps).offers = s.offers := by
  rw [acceptAll]
  split
  · rfl
  · cases h : (r s.issued (.order (Placement.accept ps))).failure <;> simp [issue,h]

theorem issued_acceptAll : (s.acceptAll r ps).issued = s.issued ++
    if ps = [] then [] else [r.record s.issued (.order (Placement.accept ps))] := by
  rw [acceptAll]
  split
  · simp
  · cases h : (r s.issued (.order (Placement.accept ps))).failure <;>
      simp [issue,Respondent.record,h]

end

/-- The session when the queued tasks start to take offers: those that the batch replaces
are declined, and the batch is held in their place. -/
def takeIn (r : Respondent) (batch : List Offer) (s : Session) : Session :=
  ((s.note (.saying .info "Received offers" [("offers",Log.ofNat batch.length)])).declineStale r
    (replaced batch s.offers)).hold batch

theorem tasks_takeIn (batch : List Offer) : (s.takeIn r batch).tasks =
    if replaced batch s.offers = [] then s.tasks
    else s.tasksAfter r (.order (.decline (replaced batch s.offers) none)) := by
  rw [takeIn,tasks_hold,tasks_declineStale,tasks_note,tasksAfter_note]

theorem issued_takeIn (batch : List Offer) : (s.takeIn r batch).issued = s.issued ++
    if replaced batch s.offers = [] then []
    else [r.record s.issued (.order (.decline (replaced batch s.offers) none))] := by
  rw [takeIn,issued_hold,issued_declineStale,issued_note]

theorem placements_takeIn (batch : List Offer) : (s.takeIn r batch).assignQueued.1 =
    (greedy batch [] (s.takeIn r batch).tasks.queued).filterMap (placement batch) :=
  placements_assignQueued_hold ..

theorem offers_takeIn (batch : List Offer) : (s.takeIn r batch).assignQueued.2.offers =
    (free batch ((greedy batch [] (s.takeIn r batch).tasks.queued).map Prod.snd)).map
      (heldAt batch) :=
  offers_assignQueued_hold ..

/-- Without work to do a batch leaves the tasks as they are. -/
theorem tasks_declineAll {r : Respondent} (hr : r.Quiet) (stale : List OfferId)
    (batch : List Offer) : (s.declineAll r stale batch).tasks = s.tasks := by
  rw [declineAll,tasks_order,tasksAfter_of_quiet hr,tasks_order,tasksAfter_of_quiet hr]
  rfl

theorem issued_declineAll (stale : List OfferId) (batch : List Offer) :
    let decline := Action.order (.decline (stale ++ batch.filterMap Offer.id) none)
    (s.declineAll r stale batch).issued = s.issued ++
      [r.record s.issued decline,
       r.record (s.issued ++ [r.record s.issued decline]) (.order .suppress)] := by
  intro decline
  rw [declineAll,issued_order,issued_order]
  simp only [issued_note,List.append_assoc,List.singleton_append]
  rfl

theorem handle_offers_eq_declineAll {s : Session} (batch : List Offer)
    (hphase : s.phase = .running) (hqueued : s.tasks.hasQueued = false) :
    (s.handle r (.offers batch)).2 =
      (s.note (.saying .info "Received offers" [("offers",Log.ofNat batch.length)])).declineAll r
        (replaced batch s.offers) batch := by
  simp only [handle,hphase,decide_true,Bool.true_or,if_true,dispatch,handleOffers,tasks_note,
    hqueued,Bool.not_false,offers_note,stale_eq_replaced]

theorem handle_offers_eq_acceptAll {s : Session} (batch : List Offer) (hphase : s.phase = .running)
    (hqueued : s.tasks.hasQueued) : (s.handle r (.offers batch)).2 =
      (s.takeIn r batch).assignQueued.2.acceptAll r (s.takeIn r batch).assignQueued.1 := by
  simp only [handle,hphase,decide_true,Bool.true_or,if_true,dispatch,handleOffers,tasks_note,
    hqueued,Bool.not_true,Bool.false_eq_true,if_false,offers_note,stale_eq_replaced,takeIn]

/-- An offer of processors; it may lack an id. -/
def cpuOffer (id : Option OfferId) (agent : String) (cpus : Binary64) : Offer :=
  { id := id, agentId := some ⟨agent⟩, resources := [.ofScalar "cpus" cpus] }

def oneCpuTask (id : String) : Task :=
  { id := id, name := id, resources := [.ofScalar "cpus" ⟨0x3FF0000000000000⟩] }

/-- Two tasks that demand one processor each wait, and an offer is held. -/
def twoWaiting : Session :=
  { phase := .running
    tasks := (Dictionary.insert .empty "a" (oneCpuTask "a")).insert "b" (oneCpuTask "b")
    offers := OfferPool.ofBatch [cpuOffer (some ⟨"old"⟩) "x" ⟨0x4000000000000000⟩] }

/-- The first offer lacks an id, and the second has nothing to spare. -/
def mixedBatch : List Offer :=
  [cpuOffer none "x" ⟨0x4000000000000000⟩,
   cpuOffer (some ⟨"tight"⟩) "y" ⟨0x3FF0000000000000⟩,
   cpuOffer (some ⟨"wide"⟩) "z" ⟨0x4000000000000000⟩]

end Session
end ClusterFramework
