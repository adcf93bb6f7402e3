import ClusterFramework.Message.Call

/-! What a subscribed framework may ask of its master, and the calls that ask for it. -/
namespace ClusterFramework

inductive Order where
  | teardown
  | accept (offers : List OfferId) (operations : List Operation) (filters : Option Filters)
  | decline (offers : List OfferId) (filters : Option Filters)
  | revive
  | suppress
  | kill (task : TaskId) (agent : Option AgentId)
  | shutdown (executor : ExecutorId) (agent : AgentId)
  | acknowledge (agent : AgentId) (task : TaskId) (uuid : Octets)
  | reconcile (tasks : List (TaskId × Option AgentId))
  | message (agent : AgentId) (executor : ExecutorId) (data : Octets)
  | request (requests : List ResourceRequest)
  deriving DecidableEq,Repr

namespace Order

def kind : Order → Call.Kind
  | teardown => .teardown
  | accept .. => .accept
  | decline .. => .decline
  | revive => .revive
  | suppress => .suppress
  | kill .. => .kill
  | shutdown .. => .shutdown
  | acknowledge .. => .acknowledge
  | reconcile _ => .reconcile
  | message .. => .message
  | request _ => .request

/-- The call of a framework; what it asks for stands in the field of its kind. -/
def toCall (framework : Option FrameworkId) (o : Order) : Call :=
  let call : Call := { frameworkId := framework, kind := o.kind.code }
  match o with
  | teardown => call
  | accept offers operations filters => { call with accept := some ⟨offers,operations,filters⟩ }
  | decline offers filters => { call with decline := some ⟨offers,filters⟩ }
  | revive => { call with revive := some {} }
  | suppress => { call with suppress := some {} }
  | kill task agent => { call with kill := some { taskId := some task, agentId := agent } }
  | shutdown executor agent => { call with shutdown := some ⟨some executor,some agent⟩ }
  | acknowledge agent task uuid =>
    { call with acknowledge := some ⟨some agent,some task,uuid⟩ }
  | reconcile tasks =>
    { call with reconcile := some ⟨tasks.map fun t => ⟨some t.1,t.2⟩⟩ }
  | message agent executor data => { call with message := some ⟨some agent,some executor,data⟩ }
  | request requests => { call with request := some ⟨requests⟩ }

@[simp] theorem frameworkId_toCall (f : Option FrameworkId) (o : Order) :
    (o.toCall f).frameworkId = f := by cases o <;> rfl

@[simp] theorem kindOf_toCall (f : Option FrameworkId) (o : Order) :
    (o.toCall f).kindOf = o.kind := by cases o <;> rfl

end Order

def FrameworkInfo.toSubscribe (info : FrameworkInfo) : Call :=
  { frameworkId := info.id
    kind := Call.Kind.code .subscribe
    subscribe := some ⟨some info⟩ }

end ClusterFramework
