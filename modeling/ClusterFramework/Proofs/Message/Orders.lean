import ClusterFramework.Master.Order
import ClusterFramework.Proofs.Message.RoundTrip

/-! What a master reads of an order: its kind, the framework id, and the arguments of the order
in the one field that is meant for them. Only amounts of resources can lose a sign. -/
namespace ClusterFramework

open Wire WireForm

namespace Wire

theorem Cardinality.plainDoubles_eq_nil {s : Scalar} {l : Cardinality}
    (h : ¬(l = .plain ∧ s = .double)) (x : l.Of s.Carrier) : l.plainDoubles s x = [] := by
  cases l with
  | plain =>
    cases s with
    | double => exact absurd ⟨rfl,rfl⟩ h
    | _ => rfl
  | _ => cases s <;> rfl

namespace Schema

/-- Neither the message type nor any inside it declares a plain double. -/
def IsExact (s : Schema) : Prop := ∀ b ∈ s :: s.inner, b.declaresPlainDouble = false

instance (s : Schema) : Decidable s.IsExact :=
  inferInstanceAs (Decidable (∀ b ∈ s :: s.inner, b.declaresPlainDouble = false))

theorem IsExact.plainDoubles_eq_nil {s : Schema} (h : s.IsExact) (r : s.Record) :
    s.plainDoubles r = [] := by
  induction s with
  | done => rfl
  | field number name l type rest ih =>
    obtain ⟨x,r⟩ := r
    obtain ⟨hself,hinner⟩ := List.forall_mem_cons.mp h
    have hplain : ¬(l = .plain ∧ type = .double) := by
      rintro ⟨rfl,rfl⟩
      cases hself
    have hrest : rest.declaresPlainDouble = false := by
      rw [declaresPlainDouble] at hself
      · exact hself
      · exact fun hl ht => hplain ⟨hl,ht⟩
    rw [plainDoubles,Cardinality.plainDoubles_eq_nil hplain,
      ih (List.forall_mem_cons.mpr ⟨hrest,hinner⟩)]
    rfl
  | child number name body rest ihb ih =>
    obtain ⟨m,r⟩ := r
    obtain ⟨hself,hinner⟩ := List.forall_mem_cons.mp h
    obtain ⟨hbody,hrest⟩ := List.forall_mem_append.mp hinner
    rw [plainDoubles,ih (List.forall_mem_cons.mpr ⟨hself,hrest⟩),List.append_nil]
    exact List.flatMap_eq_nil_iff.mpr fun m _ => ihb hbody m
  | children number name body rest ihb ih =>
    obtain ⟨ms,r⟩ := r
    obtain ⟨hself,hinner⟩ := List.forall_mem_cons.mp h
    obtain ⟨hbody,hrest⟩ := List.forall_mem_append.mp hinner
    rw [plainDoubles,ih (List.forall_mem_cons.mpr ⟨hself,hrest⟩),List.append_nil]
    exact List.flatMap_eq_nil_iff.mpr fun m _ => ihb hbody m

end Schema
end Wire

namespace WireForm

variable {α : Type} [WireForm α]

theorem normalize_of_isExact (h : (schema α).IsExact) (a : α) : normalize a = a := by
  rw [normalize_eq_self_iff,h.plainDoubles_eq_nil]
  exact List.not_mem_nil

def normalizeChild (m : Option α) : Option α := m.map normalize

def normalizeChildren (ms : List α) : List α := ms.map normalize

theorem ofChild_normalize (m : Option α) :
    ofChild ((toChild m).map (schema α).normalize) = normalizeChild m := by
  cases m <;> rfl

theorem ofChildren_normalize (ms : List α) :
    ofChildren ((toChildren ms).map (schema α).normalize) = normalizeChildren ms := by
  rw [ofChildren,toChildren,List.map_map,List.map_map]
  rfl

theorem normalizeChild_of_isExact (h : (schema α).IsExact) (m : Option α) :
    normalizeChild m = m := by
  cases m with
  | none => rfl
  | some a => rw [normalizeChild,Option.map_some,normalize_of_isExact h]

theorem normalizeChildren_of_isExact (h : (schema α).IsExact) (ms : List α) :
    normalizeChildren ms = ms := by
  rw [normalizeChildren,List.map_congr_left fun a _ => normalize_of_isExact h a,List.map_id']

end WireForm

namespace Call

/-- Only what is accepted or requested can hold amounts. -/
theorem normalize_eq (c : Call) : WireForm.normalize c =
    { c with accept := normalizeChild c.accept, request := normalizeChild c.request } := by
  have hframework : normalizeChild c.frameworkId = c.frameworkId :=
    normalizeChild_of_isExact (by decide) _
  have hsubscribe : normalizeChild c.subscribe = c.subscribe :=
    normalizeChild_of_isExact (by decide) _
  have hdecline : normalizeChild c.decline = c.decline := normalizeChild_of_isExact (by decide) _
  have hkill : normalizeChild c.kill = c.kill := normalizeChild_of_isExact (by decide) _
  have hshutdown : normalizeChild c.shutdown = c.shutdown :=
    normalizeChild_of_isExact (by decide) _
  have hacknowledge : normalizeChild c.acknowledge = c.acknowledge :=
    normalizeChild_of_isExact (by decide) _
  have hreconcile : normalizeChild c.reconcile = c.reconcile :=
    normalizeChild_of_isExact (by decide) _
  have hmessage : normalizeChild c.message = c.message := normalizeChild_of_isExact (by decide) _
  have hrevive : normalizeChild c.revive = c.revive := normalizeChild_of_isExact (by decide) _
  have hsuppress : normalizeChild c.suppress = c.suppress :=
    normalizeChild_of_isExact (by decide) _
  calc WireForm.normalize c
      = ⟨normalizeChild c.frameworkId,c.kind,normalizeChild c.subscribe,normalizeChild c.accept,
          normalizeChild c.decline,normalizeChild c.kill,normalizeChild c.shutdown,
          normalizeChild c.acknowledge,normalizeChild c.reconcile,normalizeChild c.message,
          normalizeChild c.request,normalizeChild c.revive,normalizeChild c.suppress⟩ := by
        simp only [← ofChild_normalize]
        rfl
    _ = { c with accept := normalizeChild c.accept, request := normalizeChild c.request } := by
        rw [hframework,hsubscribe,hdecline,hkill,hshutdown,hacknowledge,hreconcile,hmessage,
          hrevive,hsuppress]

theorem normalize_accept (m : Call.Accept) :
    WireForm.normalize m = { m with operations := normalizeChildren m.operations } := by
  have hids : normalizeChildren m.offerIds = m.offerIds :=
    normalizeChildren_of_isExact (by decide) _
  have hfilters : normalizeChild m.filters = m.filters := normalizeChild_of_isExact (by decide) _
  calc WireForm.normalize m
      = ⟨normalizeChildren m.offerIds,normalizeChildren m.operations,normalizeChild m.filters⟩ := by
        rw [← ofChild_normalize,← ofChildren_normalize,← ofChildren_normalize]
        rfl
    _ = { m with operations := normalizeChildren m.operations } := by rw [hids,hfilters]

theorem normalize_request (m : Call.Request) :
    WireForm.normalize m = ⟨normalizeChildren m.requests⟩ := by
  rw [← ofChildren_normalize]
  rfl

inductive Payload where
  | subscribe (m : Call.Subscribe)
  | accept (m : Call.Accept)
  | decline (m : Call.Decline)
  | kill (m : Call.Kill)
  | shutdown (m : Call.Shutdown)
  | acknowledge (m : Call.Acknowledge)
  | reconcile (m : Call.Reconcile)
  | message (m : Call.Message)
  | request (m : Call.Request)
  | revive (m : Call.Revive)
  | suppress (m : Call.Suppress)
  deriving DecidableEq,Repr

def payloads (c : Call) : List Payload :=
  (c.subscribe.map .subscribe).toList ++ (c.accept.map .accept).toList ++
    (c.decline.map .decline).toList ++ (c.kill.map .kill).toList ++
    (c.shutdown.map .shutdown).toList ++ (c.acknowledge.map .acknowledge).toList ++
    (c.reconcile.map .reconcile).toList ++ (c.message.map .message).toList ++
    (c.request.map .request).toList ++ (c.revive.map .revive).toList ++
    (c.suppress.map .suppress).toList

end Call

namespace Order

/-- The arguments of an order, in the field that is meant for them. -/
def payload : Order → Option Call.Payload
  | teardown => none
  | accept offers operations filters => some (.accept ⟨offers,operations,filters⟩)
  | decline offers filters => some (.decline ⟨offers,filters⟩)
  | revive => some (.revive ⟨[]⟩)
  | suppress => some (.suppress ⟨[]⟩)
  | kill task agent => some (.kill ⟨some task,agent,none⟩)
  | shutdown executor agent => some (.shutdown ⟨some executor,some agent⟩)
  | acknowledge agent task uuid => some (.acknowledge ⟨some agent,some task,uuid⟩)
  | reconcile tasks => some (.reconcile ⟨tasks.map fun t => ⟨some t.1,t.2⟩⟩)
  | message agent executor data => some (.message ⟨some agent,some executor,data⟩)
  | request requests => some (.request ⟨requests⟩)

/-- The order with the amounts of its resources as they come back from the wire. -/
def normalize : Order → Order
  | accept offers operations filters => accept offers (normalizeChildren operations) filters
  | request requests => request (normalizeChildren requests)
  | o => o

theorem payloads_toCall (f : Option FrameworkId) (o : Order) :
    (o.toCall f).payloads = o.payload.toList := by cases o <;> rfl

theorem kind_normalize (o : Order) : o.normalize.kind = o.kind := by cases o <;> rfl

theorem normalize_toCall (f : Option FrameworkId) (o : Order) :
    WireForm.normalize (o.toCall f) = o.normalize.toCall f := by
  rw [Call.normalize_eq]
  cases o with
  | accept offers operations filters =>
    simp [toCall,normalize,kind,normalizeChild,Call.normalize_accept]
  | request requests => simp [toCall,normalize,kind,normalizeChild,Call.normalize_request]
  | _ => rfl

/-- A master reads the kind of an order, the framework id, and nothing but the arguments. -/
theorem decode?_encode_toCall (f : Option FrameworkId) (o : Order)
    (h : (encode (o.toCall f)).length < UInt64.size) :
    ∃ c : Call, decode? (encode (o.toCall f)) = some c ∧ c.kindOf = o.kind ∧ c.frameworkId = f ∧
      c.payloads = o.normalize.payload.toList := by
  have hsound : (schema Call).Sound := sound_of_mem_catalog ("Call",schema Call) (by simp [catalog])
  refine ⟨o.normalize.toCall f,?_,?_,frameworkId_toCall f _,payloads_toCall f _⟩
  · rw [decode?_encode_of_sound hsound h,normalize_toCall]
  · rw [kindOf_toCall,kind_normalize]

end Order
end ClusterFramework
