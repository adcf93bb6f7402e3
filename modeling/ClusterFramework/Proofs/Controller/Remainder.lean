import ClusterFramework.Proofs.Controller.Launching

/-! What is left of a batch. A place that did not fit a task when the task was considered is not
looked at again, but places only get fewer while the tasks take them. So no offer that is still
held fits a task that found none, whether or not the master takes the order for the others. -/
namespace ClusterFramework

namespace Matching

variable {batch : List Offer}

/-- A task that finds no place fits none of those that are left. -/
theorem not_fits_of_unmatched {taken : List (Fin batch.length)} {ts : List Task} {t : Task}
    (ht : t ∈ ts) (hunmatched : t ∉ (greedy batch taken ts).map Prod.fst)
    {i : Fin batch.length} (hi : i ∉ taken) (hleft : i ∉ (greedy batch taken ts).map Prod.snd) :
    ¬StrictlyFits (batch.get i) t := by
  induction ts generalizing taken with
  | nil => cases ht
  | cons u ts ih =>
    rw [greedy] at hunmatched hleft
    cases hfirst : firstFit batch taken u with
    | none =>
      rw [hfirst] at hunmatched hleft
      rcases List.mem_cons.mp ht with rfl | ht
      · exact firstFit_eq_none_iff.mp hfirst i hi
      · exact ih ht hunmatched hi hleft
    | some j =>
      rw [hfirst] at hunmatched hleft
      simp only [List.map_cons,List.mem_cons,not_or] at hunmatched hleft
      have ht : t ∈ ts := (List.mem_cons.mp ht).resolve_left hunmatched.1
      have hi : i ∉ j :: taken := fun h => (List.mem_cons.mp h).elim hleft.1 hi
      exact ih ht hunmatched.2 hi hleft.2

theorem exists_placement (hbatch : ∀ o ∈ batch, o.id.isSome ∧ o.agentId.isSome)
    (m : Task × Fin batch.length) : ∃ p, placement batch m = some p := by
  obtain ⟨hid,hagent⟩ := hbatch batch[m.2] (List.getElem_mem _)
  obtain ⟨id,hid⟩ := Option.isSome_iff_exists.mp hid
  obtain ⟨agent,hagent⟩ := Option.isSome_iff_exists.mp hagent
  refine ⟨⟨m.1,id,agent⟩,?_⟩
  rw [placement,hid,hagent]
  rfl

theorem map_task_placements (hbatch : ∀ o ∈ batch, o.id.isSome ∧ o.agentId.isSome)
    (ms : List (Task × Fin batch.length)) :
    (ms.filterMap (placement batch)).map Placement.task = ms.map Prod.fst := by
  induction ms with
  | nil => rfl
  | cons m ms ih =>
    obtain ⟨p,hp⟩ := exists_placement hbatch m
    rw [List.filterMap_cons_some hp,List.map_cons,task_of_placement hp,ih,List.map_cons]

end Matching

namespace Session

open Matching

variable {r : Respondent} {s : Session} {batch : List Offer}

theorem newlyIssued_offers (hphase : s.phase = .running) (batch : List Offer) :
    s.newlyIssued r (.notice (.offers batch)) = s.batchOrders r batch := by
  refine newlyIssued_eq ?_
  rw [step,← handleOffers_eq_handle r hphase]
  exact issued_handleOffers r hphase batch

theorem takeWhile_batchOrders (hqueued : s.tasks.hasQueued) :
    (s.batchOrders r batch).takeWhile (fun i => !i.isAccept) =
      if replaced batch s.offers = [] then []
      else [r.record s.issued (.order (.decline (replaced batch s.offers) none))] := by
  rw [batchOrders,hqueued,if_pos rfl]
  generalize (s.takeIn r batch).assignQueued.1 = ps
  split <;> by_cases hps : ps = [] <;>
    simp [hps,Respondent.record,Placement.accept,Issued.isAccept]

theorem mem_queued_takeIn {k : String} {t : Task} (ht : s.tasks.get? k = some t)
    (hstate : t.state = .queued)
    (hk : k ∉ r.removedDuring s.issued (if replaced batch s.offers = [] then []
      else [r.record s.issued (.order (.decline (replaced batch s.offers) none))])) :
    t ∈ (s.takeIn r batch).tasks.queued := by
  rw [tasks_takeIn,TaskTable.queued,TaskTable.mem_inState_iff]
  refine ⟨⟨k,?_⟩,hstate⟩
  split
  · exact ht
  · rename_i hstale
    rw [if_neg hstale] at hk
    rw [tasksAfter_eq,Dictionary.get?_foldl_erase,if_neg hk]
    exact ht

theorem launched_of_matched (hqueued : s.tasks.hasQueued)
    (hbatch : ∀ o ∈ batch, o.id.isSome ∧ o.agentId.isSome) {t : Task}
    (ht : t ∈ (greedy batch [] (s.takeIn r batch).tasks.queued).map Prod.fst) :
    ∃ i ∈ s.batchOrders r batch, t.id ∈ i.launchedIds := by
  rw [batchOrders,hqueued,if_pos rfl,placements_takeIn]
  rw [← map_task_placements hbatch] at ht
  generalize (greedy batch [] (s.takeIn r batch).tasks.queued).filterMap (placement batch) = ps at ht
  obtain ⟨p,hp,rfl⟩ := List.mem_map.mp ht
  dsimp only
  rw [if_neg (List.ne_nil_of_mem hp)]
  refine ⟨_,List.mem_append_right _ List.mem_cons_self,?_⟩
  rw [Respondent.record,Issued.launchedIds_accept]
  exact List.mem_map_of_mem hp

/-- None of the offers that are held after a batch fits a task that waited before and is not
launched, whatever becomes of the orders. Tasks that others removed before the offers were
matched are left out. -/
theorem not_fits_of_not_launched (hphase : s.phase = .running)
    (hbatch : ∀ o ∈ batch, o.id.isSome ∧ o.agentId.isSome) {k : String} {t : Task}
    (ht : s.tasks.get? k = some t) (hstate : t.state = .queued) :
    let new := s.newlyIssued r (.notice (.offers batch))
    k ∉ r.removedDuring s.issued (new.takeWhile fun i => !i.isAccept) →
      (∀ i ∈ new, t.id ∉ i.launchedIds) →
        ∀ h ∈ (s.handle r (.offers batch)).2.offers, ¬h.fits t := by
  intro new hk hnew h hh
  have hqueued : s.tasks.hasQueued :=
    s.tasks.hasQueued_iff_stateOf.mpr ⟨k,by rw [TaskTable.stateOf,ht,Option.map_some,hstate]⟩
  have hissued : new = s.batchOrders r batch := newlyIssued_offers hphase batch
  rw [hissued,takeWhile_batchOrders hqueued] at hk
  rw [hissued] at hnew
  rw [handle_offers_eq_acceptAll r batch hphase hqueued,offers_acceptAll,offers_takeIn] at hh
  obtain ⟨i,hi,rfl⟩ := List.mem_map.mp hh
  have hunmatched : t ∉ (greedy batch [] (s.takeIn r batch).tasks.queued).map Prod.fst :=
    fun hmatched => by
      obtain ⟨i,hi,hid⟩ := launched_of_matched hqueued hbatch hmatched
      exact hnew i hi hid
  rw [heldAt,HeldOffer.fits_ofOffer_iff]
  exact not_fits_of_unmatched (mem_queued_takeIn ht hstate hk) hunmatched List.not_mem_nil
    ((mem_free batch).mp hi)

theorem not_fits_of_refused :
    let batch := [cpuOffer (some ⟨"wide"⟩) "z" ⟨0x4000000000000000⟩,
      cpuOffer (some ⟨"tight"⟩) "y" ⟨0x3FF0000000000000⟩]
    let r : Respondent := fun _ _ => { failure := some (.master .noStreamId) }
    let new := twoWaiting.newlyIssued r (.notice (.offers batch))
    twoWaiting.phase = .running ∧ (∀ o ∈ batch, o.id.isSome ∧ o.agentId.isSome) ∧
      twoWaiting.tasks.get? "b" = some (oneCpuTask "b") ∧ (oneCpuTask "b").state = .queued ∧
      "b" ∉ r.removedDuring twoWaiting.issued (new.takeWhile fun i => !i.isAccept) ∧
      (∀ i ∈ new, (oneCpuTask "b").id ∉ i.launchedIds) ∧
      (twoWaiting.handle r (.offers batch)).2.offers =
        [.ofOffer (cpuOffer (some ⟨"tight"⟩) "y" ⟨0x3FF0000000000000⟩)] ∧
      ∀ h ∈ (twoWaiting.handle r (.offers batch)).2.offers, ¬h.fits (oneCpuTask "b") := by
  intro batch r new
  have hbatch : ∀ o ∈ batch, o.id.isSome ∧ o.agentId.isSome := by decide
  have hget : twoWaiting.tasks.get? "b" = some (oneCpuTask "b") := by decide +kernel
  have hremoved : "b" ∉ r.removedDuring twoWaiting.issued (new.takeWhile fun i => !i.isAccept) := by
    decide +kernel
  have hlaunched : ∀ i ∈ new, (oneCpuTask "b").id ∉ i.launchedIds := by decide +kernel
  exact ⟨rfl,hbatch,hget,rfl,hremoved,hlaunched,by decide +kernel,
    not_fits_of_not_launched rfl hbatch hget rfl hremoved hlaunched⟩

end Session
end ClusterFramework
