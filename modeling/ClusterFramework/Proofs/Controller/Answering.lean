import ClusterFramework.Proofs.Controller.Steps

/-! Each delivery of an offer is answered at most once. An id that an order names, and one that
is rescinded, is no longer held, and only another batch that carries it brings it back. -/
namespace ClusterFramework

namespace Issued

def offerIds (i : Issued) : List OfferId :=
  match i.action with
  | .order (.accept ids _ _) => ids
  | .order (.decline ids _) => ids
  | _ => []

def acceptedIds (i : Issued) : List OfferId :=
  match i.action with
  | .order (.accept ids _ _) => ids
  | _ => []

theorem offerIds_of_mem_acceptedIds {i : Issued} {id : OfferId} (h : id ∈ i.acceptedIds) :
    id ∈ i.offerIds := by
  rw [acceptedIds] at h
  rw [offerIds]
  split at h
  · rename_i ha
    rw [ha]
    exact h
  · cases h

end Issued

def Step.offeredIds : Step → List OfferId
  | .notice (.offers batch) => batch.filterMap Offer.id
  | _ => []

namespace Matching

theorem mem_replaced {batch : List Offer} {held : OfferPool} {id : OfferId} :
    id ∈ replaced batch held ↔ id ∈ held.ids ∧ id ∉ batch.filterMap Offer.id := by
  rw [replaced,List.mem_filter,OfferPool.ids]
  simp

theorem replaced_nodup (batch : List Offer) {held : OfferPool} (h : held.ids.Nodup) :
    (replaced batch held).Nodup := h.filter _

section

variable {batch : List Offer}

variable (batch) in
def idAt (i : Fin batch.length) : Option OfferId := (heldAt batch i).id

theorem idAt_of_placement {m : Task × Fin batch.length} {p : Placement}
    (h : placement batch m = some p) : idAt batch m.2 = some p.offer := by
  simp only [placement,Option.pure_def,Option.bind_eq_bind,Option.bind_eq_some_iff] at h
  obtain ⟨offer,hoffer,_,_,hp⟩ := h
  cases hp
  exact hoffer

theorem offers_of_placements (ms : List (Task × Fin batch.length)) :
    (ms.filterMap (placement batch)).map Placement.offer =
      ((ms.filter fun m => (placement batch m).isSome).map Prod.snd).filterMap (idAt batch) := by
  induction ms with
  | nil => rfl
  | cons m ms ih =>
    cases h : placement batch m with
    | none => rw [List.filterMap_cons_none h,List.filter_cons_of_neg (by simp [h]),ih]
    | some p =>
      rw [List.filterMap_cons_some h,List.filter_cons_of_pos (by simp [h]),List.map_cons,
        List.map_cons,List.filterMap_cons_some (idAt_of_placement h),ih]

theorem filterMap_idAt (is : List (Fin batch.length)) :
    is.filterMap (idAt batch) = OfferPool.ids (is.map (heldAt batch)) := by
  rw [OfferPool.ids,List.filterMap_map]
  rfl

theorem filterMap_idAt_finRange :
    (List.finRange batch.length).filterMap (idAt batch) = batch.filterMap Offer.id := by
  rw [filterMap_idAt,map_heldAt_finRange,OfferPool.ids,OfferPool.ofBatch,List.filterMap_map]
  rfl

theorem ids_perm (ts : List Task) :
    let ms := greedy batch [] ts
    ∃ passed, ((ms.filterMap (placement batch)).map Placement.offer ++ passed ++
      OfferPool.ids ((free batch (ms.map Prod.snd)).map (heldAt batch))).Perm
        (batch.filterMap Offer.id) := by
  intro ms
  have hplaces := (places_perm batch ms greedy_places_nodup).filterMap (idAt batch)
  rw [List.filterMap_append,List.filterMap_append,← offers_of_placements,
    filterMap_idAt_finRange] at hplaces
  rw [← filterMap_idAt]
  exact ⟨_,hplaces⟩

end

end Matching

namespace Session

open Matching

/-- A batch counts as delivered if it is handled while the phase is running. -/
def Delivers (x : Step) (s : Session) (id : OfferId) : Prop :=
  s.phase = .running ∧ id ∈ x.offeredIds

def Delivered (r : Respondent) (xs : List Step) (s : Session) (id : OfferId) : Prop :=
  ∃ ys x zs, xs = ys ++ x :: zs ∧ (s.play r ys).Delivers x id

/-- The offers that the orders of a step answer. -/
def answered (r : Respondent) (x : Step) (s : Session) : List OfferId :=
  (s.newlyIssued r x).flatMap Issued.offerIds

variable (r : Respondent) {s s' : Session} {x : Step} {new : List Issued} {id : OfferId}

theorem offers_handleOffers (batch : List Offer) (hphase : s.phase = .running) :
    (s.handleOffers r batch).offers =
      if s.tasks.hasQueued then (s.takeIn r batch).assignQueued.2.offers else [] := by
  rw [handleOffers_eq_handle r hphase]
  cases hqueued : s.tasks.hasQueued with
  | false =>
    rw [handle_offers_eq_declineAll r batch hphase hqueued,declineAll]
    simp
  | true =>
    rw [handle_offers_eq_acceptAll r batch hphase hqueued,offers_acceptAll]
    rfl

/-- A batch answers the offers it replaces and some that it carries. The others it carries are
passed over or held. -/
theorem exists_taken (batch : List Offer) (hphase : s.phase = .running) : ∃ taken passed,
    (s.batchOrders r batch).flatMap Issued.offerIds = replaced batch s.offers ++ taken ∧
      (∀ i ∈ s.batchOrders r batch, ∀ id ∈ i.acceptedIds, id ∈ taken) ∧
      (taken ++ passed ++ (s.handleOffers r batch).offers.ids).Perm
        (batch.filterMap Offer.id) := by
  have haccepted : ∀ i ∈ s.batchOrders r batch, ∀ id ∈ i.acceptedIds,
      s.tasks.hasQueued ∧ id ∈ (s.takeIn r batch).assignQueued.1.map Placement.offer := by
    intro i hi id hid
    rw [Issued.acceptedIds] at hid
    rcases mem_batchOrders r s hi with ⟨ids,ha⟩ | ⟨_,ha⟩ | ⟨hqueued,ha⟩ <;> rw [ha] at hid
    · cases hid
    · cases hid
    · exact ⟨hqueued,hid⟩
  rw [offers_handleOffers r batch hphase]
  cases hqueued : s.tasks.hasQueued with
  | false =>
    refine ⟨batch.filterMap Offer.id,[],?_,fun i hi id hid => ?_,by simp [OfferPool.ids]⟩
    · simp [batchOrders,hqueued,Issued.offerIds,Respondent.record]
    · have hnone := (haccepted i hi id hid).1
      rw [hqueued] at hnone
      cases hnone
  | true =>
    obtain ⟨passed,hperm⟩ := @ids_perm batch (s.takeIn r batch).tasks.queued
    rw [← placements_takeIn,← offers_takeIn] at hperm
    generalize hps : (s.takeIn r batch).assignQueued.1 = ps at hperm haccepted
    refine ⟨ps.map Placement.offer,passed,?_,fun i hi id hid => (haccepted i hi id hid).2,hperm⟩
    rw [batchOrders,hqueued,hps]
    by_cases hstale : replaced batch s.offers = [] <;> by_cases hnil : ps = [] <;>
      simp [hstale,hnil,Issued.offerIds,Respondent.record,Placement.accept]

theorem offerIds_reportOrders (s : Session) (status : TaskStatus) :
    (s.reportOrders r status).flatMap Issued.offerIds = [] :=
  List.flatMap_eq_nil_iff.mpr fun i hi => by
    rw [Issued.offerIds]
    rcases mem_reportOrders r s hi with ha | ⟨_,_,_,ha⟩ <;> rw [ha]

/-- What becomes of the offers in a step that issues something. -/
structure Answers (s s' : Session) (x : Step) (new : List Issued) : Prop where
  known : ∀ id ∈ new.flatMap Issued.offerIds, id ∈ s.offers.ids ∨ s.Delivers x id
  nodup : (new.flatMap Issued.offerIds).Nodup
  accepted : ∀ i ∈ new, ∀ id ∈ i.acceptedIds, id ∈ x.offeredIds
  spent : ∀ id ∈ new.flatMap Issued.offerIds, id ∉ s'.offers.ids
  held : ∀ id ∈ s'.offers.ids, id ∈ s.offers.ids ∨ s.Delivers x id
  held_nodup : s'.offers.ids.Nodup

theorem Answers.of_sublist (hs : s.offers.ids.Nodup)
    (hheld : s'.offers.ids.Sublist s.offers.ids) (hnew : new.flatMap Issued.offerIds = []) :
    Answers s s' x new := by
  have hnone : ∀ id, id ∉ new.flatMap Issued.offerIds := fun id hid => by
    rw [hnew] at hid
    cases hid
  exact {
    known := fun id hid => absurd hid (hnone id)
    nodup := hnew ▸ List.nodup_nil
    accepted := fun i hi id hid => absurd
      (List.mem_flatMap.mpr ⟨i,hi,Issued.offerIds_of_mem_acceptedIds hid⟩) (hnone id)
    spent := fun id hid => absurd hid (hnone id)
    held := fun id hid => .inl (hheld.subset hid)
    held_nodup := hs.sublist hheld }

theorem answers_handleOffers (hs : s.offers.ids.Nodup) {batch : List Offer}
    (hbatch : (batch.filterMap Offer.id).Nodup) (hphase : s.phase = .running) :
    Answers s (s.handleOffers r batch) (.notice (.offers batch)) (s.batchOrders r batch) := by
  obtain ⟨taken,passed,hnew,haccepted,hperm⟩ := exists_taken r batch hphase
  obtain ⟨hfront,hheld,hapart⟩ := List.nodup_append.mp (hperm.nodup_iff.mpr hbatch)
  have htaken : ∀ id ∈ taken, id ∈ batch.filterMap Offer.id := fun id hid =>
    hperm.subset (List.mem_append_left _ (List.mem_append_left _ hid))
  have hkept : ∀ id ∈ (s.handleOffers r batch).offers.ids, id ∈ batch.filterMap Offer.id :=
    fun id hid => hperm.subset (List.mem_append_right _ hid)
  refine ⟨?_,?_,fun i hi id hid => htaken id (haccepted i hi id hid),?_,
    fun id hid => .inr ⟨hphase,hkept id hid⟩,hheld⟩
  · rw [hnew]
    intro id hid
    rcases List.mem_append.mp hid with hid | hid
    · exact .inl (mem_replaced.mp hid).1
    · exact .inr ⟨hphase,htaken id hid⟩
  · rw [hnew]
    refine List.nodup_append.mpr ⟨replaced_nodup batch hs,(List.nodup_append.mp hfront).1,?_⟩
    rintro id hid _ hid' rfl
    exact (mem_replaced.mp hid).2 (htaken id hid')
  · rw [hnew]
    intro id hid hid'
    rcases List.mem_append.mp hid with hid | hid
    · exact (mem_replaced.mp hid).2 (hkept id hid')
    · exact hapart id (List.mem_append_left _ hid) id hid' rfl

theorem Stepped.answers (h : Stepped r s x s' new) (hs : s.offers.ids.Nodup)
    (hx : x.offeredIds.Nodup) : Answers s s' x new := by
  cases h with
  | batch offers hphase => exact answers_handleOffers r hs hx hphase
  | rescinded id hphase => exact .of_sublist hs (List.filter_sublist.filterMap _) rfl
  | confirmed id heartbeat master =>
    obtain ⟨store,hkept⟩ := kept_handleSubscribed r s id heartbeat master
    exact .of_sublist hs (by rw [hkept.offers]) rfl
  | reported status hphase =>
    exact .of_sublist hs (by rw [(kept_handleUpdate r s status).offers])
      (offerIds_reportOrders r s status)
  | _ => exact .of_sublist hs (.refl _) rfl

theorem answers_step (hs : s.offers.ids.Nodup) (hx : x.offeredIds.Nodup) :
    Answers s (s.step r x) x (s.newlyIssued r x) := (stepped r s x).answers r hs hx

theorem nodup_play (hs : s.offers.ids.Nodup) {xs : List Step}
    (hxs : ∀ x ∈ xs, x.offeredIds.Nodup) : (s.play r xs).offers.ids.Nodup := by
  induction xs generalizing s with
  | nil => exact hs
  | cons x xs ih =>
    obtain ⟨hx,hxs⟩ := List.forall_mem_cons.mp hxs
    exact ih (answers_step r hs hx).held_nodup hxs

theorem Delivered.cons {xs : List Step} (h : Delivered r xs (s.step r x) id) :
    Delivered r (x :: xs) s id := by
  obtain ⟨ys,y,zs,rfl,hy⟩ := h
  exact ⟨x :: ys,y,zs,rfl,hy⟩

theorem Delivered.append {xs : List Step} (h : Delivered r xs s id) (zs : List Step) :
    Delivered r (xs ++ zs) s id := by
  obtain ⟨ys,y,zs',rfl,hy⟩ := h
  exact ⟨ys,y,zs' ++ zs,List.append_assoc ..,hy⟩

/-- What is held was held before or delivered since. -/
theorem held_or_delivered (hs : s.offers.ids.Nodup) {xs : List Step}
    (hxs : ∀ x ∈ xs, x.offeredIds.Nodup) (hid : id ∈ (s.play r xs).offers.ids) :
    id ∈ s.offers.ids ∨ Delivered r xs s id := by
  induction xs generalizing s with
  | nil => exact .inl hid
  | cons x xs ih =>
    obtain ⟨hx,hxs⟩ := List.forall_mem_cons.mp hxs
    have hanswers := answers_step r hs hx
    rcases ih hanswers.held_nodup hxs hid with hid | hid
    · exact (hanswers.held id hid).imp_right fun h => ⟨[],x,xs,rfl,h⟩
    · exact .inr hid.cons

/-- A step uses up an offer by answering it, or by rescinding it in the running phase. -/
def Spends (r : Respondent) (x : Step) (s : Session) (id : OfferId) : Prop :=
  id ∈ s.answered r x ∨ s.phase = .running ∧ x = .notice (.rescind id)

theorem not_held_of_spends (hs : s.offers.ids.Nodup) (hx : x.offeredIds.Nodup)
    (h : s.Spends r x id) : id ∉ (s.step r x).offers.ids := by
  rcases h with h | ⟨hphase,rfl⟩
  · exact (answers_step r hs hx).spent id h
  · have hstep : s.step r (.notice (.rescind id)) = s.handleRescind id := by
      rw [step,handle_of_running hphase]
      rfl
    rw [hstep]
    intro hid
    obtain ⟨h,hh,hhid⟩ := List.mem_filterMap.mp hid
    exact of_decide_eq_true (List.mem_filter.mp hh).2 hhid

/-- While nothing delivers an offer that is not held, it stays so, and no order names it. -/
theorem untouched_of_not_delivered (hs : s.offers.ids.Nodup) {xs : List Step}
    (hxs : ∀ y ∈ xs ++ [x], y.offeredIds.Nodup) (hid : id ∉ s.offers.ids)
    (hnever : ¬Delivered r (xs ++ [x]) s id) :
    id ∉ (s.play r xs).answered r x ∧ id ∉ (s.play r (xs ++ [x])).offers.ids := by
  obtain ⟨hbefore,hx⟩ := List.forall_mem_append.mp hxs
  have hheld : id ∉ (s.play r xs).offers.ids := fun h =>
    (held_or_delivered r hs hbefore h).elim hid fun h => hnever (h.append r [x])
  have hanswers := answers_step r (nodup_play r hs hbefore) (hx x List.mem_cons_self)
  refine ⟨fun h => ?_,fun h => (held_or_delivered r hs hxs h).elim hid hnever⟩
  rcases hanswers.known id h with h | h
  · exact hheld h
  · exact hnever ⟨xs,x,[],rfl,h⟩

/-- If no batch carries an id twice, then over every run no step names an offer twice in its
orders, and what it accepts is in the batch that it brings. An offer that was answered, or
rescinded in the running phase, is neither held nor named until a batch that carries it is
handled again, at the latest in the step that names it. -/
theorem answers_of_play {s₀ : Session} (hs₀ : s₀.offers.ids.Nodup) {xs : List Step}
    (hmaster : ∀ x ∈ xs, x.offeredIds.Nodup) (ys : List Step) (x : Step) (zs : List Step)
    (hxs : xs = ys ++ x :: zs) :
    let s := s₀.play r ys
    let s' := s.step r x
    (s.answered r x).Nodup ∧
      (∀ i ∈ s.newlyIssued r x, ∀ id ∈ i.acceptedIds, id ∈ x.offeredIds) ∧
      ∀ id, s.Spends r x id → id ∉ s'.offers.ids ∧
        ∀ ys' y zs', zs = ys' ++ y :: zs' → ¬Delivered r (ys' ++ [y]) s' id →
          id ∉ (s'.play r ys').answered r y ∧ id ∉ (s'.play r (ys' ++ [y])).offers.ids := by
  intro s s'
  subst hxs
  obtain ⟨hys,hrest⟩ := List.forall_mem_append.mp hmaster
  obtain ⟨hx,hzs⟩ := List.forall_mem_cons.mp hrest
  have hs : s.offers.ids.Nodup := nodup_play r hs₀ hys
  have hanswers : Answers s s' x (s.newlyIssued r x) := answers_step r hs hx
  refine ⟨hanswers.nodup,hanswers.accepted,fun id hspends => ?_⟩
  have hspent : id ∉ s'.offers.ids := not_held_of_spends r hs hx hspends
  refine ⟨hspent,fun ys' y zs' hsplit hnever => ?_⟩
  refine untouched_of_not_delivered r hanswers.held_nodup (fun z hz => hzs z ?_) hspent hnever
  rw [hsplit,List.append_cons]
  exact List.mem_append_left zs' hz

/-- One of the offers that the first batch brings is accepted and the other rescinded; both
are declined when the last batch replaces those of the second. -/
def offeredAgain : List Step :=
  [.notice (.offers mixedBatch),.notice (.rescind ⟨"tight"⟩),.notice (.offers mixedBatch),
   .notice (.offers [])]

theorem answers_offeredAgain :
    let r : Respondent := fun _ _ => {}
    let s₁ := twoWaiting.step r (.notice (.offers mixedBatch))
    let s₃ := twoWaiting.play r (offeredAgain.take 3)
    twoWaiting.offers.ids.Nodup ∧ (∀ x ∈ offeredAgain, x.offeredIds.Nodup) ∧
      twoWaiting.answered r (.notice (.offers mixedBatch)) = [⟨"old"⟩,⟨"wide"⟩] ∧
      s₃.answered r (.notice (.offers [])) = [⟨"tight"⟩,⟨"wide"⟩] ∧
      Delivered r offeredAgain.tail s₁ ⟨"wide"⟩ := by
  intro r s₁ s₃
  have hheld : twoWaiting.offers.ids.Nodup := by decide +kernel
  have hmaster : ∀ x ∈ offeredAgain, x.offeredIds.Nodup := by decide +kernel
  have hfirst : twoWaiting.answered r (.notice (.offers mixedBatch)) = [⟨"old"⟩,⟨"wide"⟩] := by
    decide +kernel
  have hlast : s₃.answered r (.notice (.offers [])) = [⟨"tight"⟩,⟨"wide"⟩] := by decide +kernel
  obtain ⟨_,_,hspent⟩ := answers_of_play r hheld hmaster [] _ _ rfl
  refine ⟨hheld,hmaster,hfirst,hlast,?_⟩
  by_contra hnever
  obtain ⟨_,huntouched⟩ := hspent ⟨"wide"⟩ (.inl (by rw [play_nil,hfirst]; decide))
  obtain ⟨hnot,_⟩ := huntouched (offeredAgain.tail.take 2) (.notice (.offers [])) [] rfl hnever
  have hnamed : ⟨"wide"⟩ ∈ s₃.answered r (.notice (.offers [])) := by
    rw [hlast]
    decide
  exact hnot hnamed

end Session
end ClusterFramework
