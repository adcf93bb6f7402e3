import ClusterFramework.Message.Call
import ClusterFramework.Message.Event

/-! Every message type of the scheduler interface under its published name. -/
namespace ClusterFramework

open Wire WireForm

def catalog : List (String × Schema) :=
  [("FrameworkId",schema FrameworkId),
    ("OfferId",schema OfferId),
    ("AgentId",schema AgentId),
    ("TaskId",schema TaskId),
    ("ExecutorId",schema ExecutorId),
    ("FrameworkInfo",schema FrameworkInfo),
    ("Capability",schema Capability),
    ("MasterInfo",schema MasterInfo),
    ("Scalar",schema ScalarValue),
    ("Range",schema RangeValue),
    ("Ranges",schema RangesValue),
    ("Set",schema SetValue),
    ("Resource",schema Resource),
    ("DiskInfo",schema DiskInfo),
    ("Persistence",schema Persistence),
    ("Volume",schema Volume),
    ("Filters",schema Filters),
    ("Label",schema Label),
    ("Labels",schema Labels),
    ("Parameter",schema Parameter),
    ("Environment",schema Environment),
    ("Variable",schema Variable),
    ("CommandInfo",schema CommandInfo),
    ("Uri",schema Uri),
    ("ContainerInfo",schema ContainerInfo),
    ("DockerInfo",schema DockerInfo),
    ("PortMapping",schema PortMapping),
    ("HealthCheck",schema HealthCheck),
    ("HttpCheckInfo",schema HttpCheckInfo),
    ("TcpCheckInfo",schema TcpCheckInfo),
    ("ExecutorInfo",schema ExecutorInfo),
    ("TaskInfo",schema TaskInfo),
    ("Offer",schema Offer),
    ("Operation",schema Operation),
    ("Launch",schema Launch),
    ("InverseOffer",schema InverseOffer),
    ("TaskStatus",schema TaskStatus),
    ("Request",schema ResourceRequest),
    ("DurationInfo",schema DurationInfo),
    ("KillPolicy",schema KillPolicy),
    ("Call",schema Call),
    ("Event",schema Event),
    ("call.Subscribe",schema Call.Subscribe),
    ("call.Accept",schema Call.Accept),
    ("call.Decline",schema Call.Decline),
    ("call.Revive",schema Call.Revive),
    ("call.Suppress",schema Call.Suppress),
    ("call.Kill",schema Call.Kill),
    ("call.Shutdown",schema Call.Shutdown),
    ("call.Acknowledge",schema Call.Acknowledge),
    ("call.Reconcile",schema Call.Reconcile),
    ("call.Message",schema Call.Message),
    ("call.Request",schema Call.Request),
    ("call.reconcile.Task",schema Call.ReconcileTask),
    ("event.Subscribed",schema Event.Subscribed),
    ("event.Offers",schema Event.Offers),
    ("event.InverseOffers",schema Event.InverseOffers),
    ("event.Rescind",schema Event.Rescind),
    ("event.RescindInverseOffer",schema Event.RescindInverseOffer),
    ("event.Update",schema Event.Update),
    ("event.Message",schema Event.Message),
    ("event.Failure",schema Event.Failure),
    ("event.Error",schema Event.Error)]

def schemaOf? (name : String) : Option Schema := catalog.lookup name

end ClusterFramework
