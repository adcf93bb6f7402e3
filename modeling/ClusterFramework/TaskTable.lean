import ClusterFramework.Dictionary
import ClusterFramework.Task

/-! The tasks a framework knows about, by id. -/
namespace ClusterFramework

inductive TaskError where
  | alreadyExists (id : String)
  | notFound (id : String)
  deriving DecidableEq,Repr

def TaskError.message : TaskError → String
  | alreadyExists id => "task already exists: " ++ id
  | notFound id => "task not found: " ++ id

abbrev TaskTable := Dictionary Task

namespace TaskTable

def add (d : TaskTable) (t : Task) : Except TaskError TaskTable :=
  if d.contains t.id then .error (.alreadyExists t.id) else .ok (d.insert t.id t)

def delete (d : TaskTable) (id : String) : Except TaskError (Task × TaskTable) :=
  match d.get? id with
  | none => .error (.notFound id)
  | some t => .ok (t,d.erase id)

def change (d : TaskTable) (id : String) (f : Task → Task) : Except TaskError TaskTable :=
  if d.contains id then .ok (d.modify id f) else .error (.notFound id)

def setState (d : TaskTable) (id : String) (s : TaskState) : Except TaskError TaskTable :=
  d.change id fun t => { t with state := s }

def setLaunched (d : TaskTable) (id : String) : Except TaskError TaskTable :=
  d.setState id .launched

/-- Records a report; the agent it names, if any, is where the task is. -/
def setStatus (d : TaskTable) (id : String) (s : TaskStatus) : Except TaskError TaskTable :=
  d.change id fun t => { t with agentId := s.agentId.or t.agentId, status := some s }

/-- Back to waiting for an offer. -/
def requeue (d : TaskTable) (id : String) : Except TaskError TaskTable :=
  d.change id fun t => { t with state := .queued, agentId := none }

/-- In ascending order of ids. -/
def inState (d : TaskTable) (s : TaskState) : List Task :=
  d.values.filter fun t => t.state = s

def queued (d : TaskTable) : List Task := d.inState .queued

def hasQueued (d : TaskTable) : Bool := d.values.any fun t => t.state = .queued

theorem hasQueued_iff (d : TaskTable) : d.hasQueued ↔ d.queued ≠ [] := by
  simp [hasQueued,queued,inState]

theorem change_of_contains {d : TaskTable} {id : String} (h : d.contains id) (f : Task → Task) :
    d.change id f = .ok (d.modify id f) := by
  simp [change,h]

theorem change_of_not_contains {d : TaskTable} {id : String} (h : d.contains id = false)
    (f : Task → Task) : d.change id f = .error (.notFound id) := by
  simp [change,h]

end TaskTable
end ClusterFramework
