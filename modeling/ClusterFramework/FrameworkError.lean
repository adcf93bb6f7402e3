import ClusterFramework.Definition.Validation
import ClusterFramework.Master.Status
import ClusterFramework.Store.Lease
import ClusterFramework.TaskTable

/-! Everything that can go wrong in a framework. -/
namespace ClusterFramework

/-- Why the master could not be called, or did not do what it was asked. -/
inductive MasterError where
  | transport (reason : String)
  | refused (status : Nat) (body : String)
  | missingStreamId
  | noStreamId
  | invalidEndpoint (reason : String)
  deriving DecidableEq,Repr

namespace MasterError

def message : MasterError → String
  | transport reason => "HTTP error: " ++ reason
  | refused status body => "master returned " ++ Master.statusText status ++ ": " ++ body
  | missingStreamId => "subscribe response carried no Mesos-Stream-Id header"
  | noStreamId => "no active subscription (stream id not set)"
  | invalidEndpoint reason => "invalid master endpoint: " ++ reason

end MasterError

inductive FrameworkError where
  | settings (reason : String)
  | master (e : MasterError)
  | noSuitableOffer
  | task (e : TaskError)
  | definition (e : Definition.SpecError)
  | store (e : StoreError)
  deriving DecidableEq,Repr

namespace FrameworkError

def message : FrameworkError → String
  | settings reason => "configuration error: " ++ reason
  | master e => "master call failed: " ++ e.message
  | noSuitableOffer => "no suitable offer"
  | task e => e.message
  | definition e => "invalid task definition: " ++ e.message
  | store e => "store error: " ++ e.message

end FrameworkError
end ClusterFramework
