import ClusterFramework.Dictionary
import ClusterFramework.Retry.Policy

/-! The policies in force, by task id. -/
namespace ClusterFramework

abbrev RetryRegistry := Dictionary RetryPolicy

namespace RetryRegistry

/-- Counts a failure against the policy of `id`. Without a policy no retry is allowed. -/
def recordFailure (r : RetryRegistry) (id : String) : Bool × RetryRegistry :=
  match r.get? id with
  | none => (false,r)
  | some p => (p.countFailure.1,r.insert id p.countFailure.2)

theorem recordFailure_none {r : RetryRegistry} {id : String} (h : r.get? id = none) :
    r.recordFailure id = (false,r) := by simp [recordFailure,h]

theorem get?_recordFailure (r : RetryRegistry) (id other : String) :
    (r.recordFailure id).2.get? other =
      if other = id then (r.get? id).map fun p => p.countFailure.2 else r.get? other := by
  unfold recordFailure
  cases h : r.get? id with
  | none => split <;> simp_all
  | some p => simp

end RetryRegistry
end ClusterFramework
