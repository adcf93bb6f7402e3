import ClusterFramework.Store.Lease

/-! The stores a framework may keep its state in. -/
namespace ClusterFramework

/-- A store in memory, or one that can neither find a key nor make one. -/
inductive KeyValueStore where
  | memory (s : LeaseStore)
  | refusing
  deriving DecidableEq,Repr

namespace KeyValueStore

def put (s : KeyValueStore) (now : Instant) (key : String) (value : Octets) :
    Except StoreError Unit × KeyValueStore :=
  match s with
  | memory s => ((s.put now key value).1,memory (s.put now key value).2)
  | refusing => (.error (.alreadyExists key),refusing)

def peek (s : KeyValueStore) (now : Instant) (key : String) : Option Octets :=
  match s with
  | memory s => (s.read now key).1.toOption
  | refusing => none

end KeyValueStore
end ClusterFramework
