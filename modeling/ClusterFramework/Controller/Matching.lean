import ClusterFramework.Controller.Session

/-! What becomes of a batch of offers. Queued tasks take offers one after the other, each
the first one that fits it, and all that are taken are accepted in one order. -/
namespace ClusterFramework

open Log (Entry)

def OfferPool.stale (pool : OfferPool) (batch : List Offer) : List OfferId :=
  pool.ids.filter fun id => !batch.any fun o => o.id = some id

def OfferPool.assignAll (pool : OfferPool) : List Task → List (Task × Option HeldOffer) × OfferPool
  | [] => ([],pool)
  | t :: ts =>
    match pool.assign? t with
    | none =>
      let (rest,left) := pool.assignAll ts
      ((t,none) :: rest,left)
    | some (h,pool) =>
      let (rest,left) := OfferPool.assignAll pool ts
      ((t,some h) :: rest,left)

/-- A task that can be launched: its offer has an id and names an agent. -/
structure Placement where
  task : Task
  offer : OfferId
  agent : AgentId
  deriving DecidableEq,Repr

namespace Placement

def of? (a : Task × Option HeldOffer) : Option Placement := do
  let h ← a.2
  pure ⟨a.1,← h.offer.id,← h.offer.agentId⟩

def operation (p : Placement) : Operation := .ofLaunch [p.task.toTaskInfo p.agent]

/-- One order for all: the offers in the order of the operations. -/
def accept (ps : List Placement) : Order :=
  .accept (ps.map Placement.offer) (ps.map Placement.operation) none

end Placement

namespace Session

def quotedId (id : Option OfferId) : Log.Value := Log.ofQuotedOption (id.map OfferId.value)

def assignmentEntries : Task × Option HeldOffer → List Entry
  | (t,none) =>
    [.saying .error "Task stays queued"
      [("task_id",.printed t.id),("error",.printed FrameworkError.noSuitableOffer.message)]]
  | (t,some h) =>
    [.saying .debug "Offer assigned"
        [("task_id",.printed t.id),("offer_id",quotedId h.id),
          ("cpu_left",Log.ofBinary64 h.cpu),("mem_left",Log.ofBinary64 h.mem)],
      match Placement.of? (t,some h) with
      | none => .saying .error "Offer carries no id or agent id" [("task_id",.printed t.id)]
      | some p =>
        .saying .debug "Task assigned"
          [("task_id",.printed t.id),("offer_id",.printed p.offer.value),
            ("agent_id",.printed p.agent.value)]]

/-- Without work to do every offer is declined, and no further ones are wanted. -/
def declineAll (r : Respondent) (stale : List OfferId) (batch : List Offer) (s : Session) :
    Session :=
  let ids := stale ++ batch.filterMap Offer.id
  let s := s.note (.saying .debug "No queued tasks, declining offers"
    [("offers",Log.ofNat ids.length)])
  let s := { s with offers := [] }
  let s := s.order r (.decline ids none) "Failed to decline offers"
  s.order r .suppress "Failed to suppress offers"

def declineStale (r : Respondent) (stale : List OfferId) (s : Session) : Session :=
  if stale = [] then s
  else
    let s := s.note (.saying .debug "Declining offers replaced by the new batch"
      [("offers",Log.ofNat stale.length)])
    s.order r (.decline stale none) "Failed to decline offers"

def markLaunched (s : Session) (p : Placement) : Session :=
  s.changeTasks p.task.id (TaskTable.setLaunched · p.task.id) "Launched task disappeared"

/-- Accepts the offers taken. If that succeeds their tasks count as launched. -/
def acceptAll (r : Respondent) (ps : List Placement) (s : Session) : Session :=
  if ps = [] then s.note (.saying .debug "No queued task fits the current offers")
  else
    match s.issue r (.order (Placement.accept ps)) with
    | (none,s) =>
      (ps.foldl markLaunched s).note
        (.saying .info "Tasks launched" [("tasks",Log.ofNat ps.length)])
    | (some e,s) =>
      s.note (.saying .error "Accept failed, tasks stay queued"
        [("tasks",Log.ofNat ps.length),("error",.printed e.message)])

def hold (batch : List Offer) (s : Session) : Session :=
  let s := { s with offers := OfferPool.ofBatch batch }
  s.note (.saying .debug "Offer set replaced" [("offers",Log.ofNat batch.length)])

def assignQueued (s : Session) : List Placement × Session :=
  let (assignments,left) := s.offers.assignAll s.tasks.queued
  (assignments.filterMap Placement.of?,
    { s with offers := left }.noteAll (assignments.flatMap assignmentEntries))

def handleOffers (r : Respondent) (batch : List Offer) (s : Session) : Session :=
  let s := s.note (.saying .info "Received offers" [("offers",Log.ofNat batch.length)])
  let stale := s.offers.stale batch
  if !s.tasks.hasQueued then s.declineAll r stale batch
  else
    let s := (s.declineStale r stale).hold batch
    let (ps,s) := s.assignQueued
    s.acceptAll r ps

end Session
end ClusterFramework
