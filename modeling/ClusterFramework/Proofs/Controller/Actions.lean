import ClusterFramework.Controller.Dispatch
import ClusterFramework.Proofs.TaskTable

/-! What an action leaves behind. Notes change the log and nothing else; an order is recorded
with its outcome, and the only other thing that changes is what others do meanwhile. -/
namespace ClusterFramework

namespace Respondent

/-- How an action that is taken after others goes on record. -/
def record (r : Respondent) (issued : List Issued) (a : Action) : Issued :=
  ⟨a,(r issued a).failure.isSome⟩

/-- Nobody but the framework changes its tasks. -/
def Quiet (r : Respondent) : Prop := ∀ issued a, (r issued a).removed = []

/-- The tasks that others remove while the actions of the second list, which follow those of
the first, are under way. -/
def removedDuring (r : Respondent) (issued : List Issued) : List Issued → List String
  | [] => []
  | i :: new => (r issued i.action).removed ++ removedDuring r (issued ++ [i]) new

theorem removedDuring_append (r : Respondent) (issued new new' : List Issued) :
    r.removedDuring issued (new ++ new') =
      r.removedDuring issued new ++ r.removedDuring (issued ++ new) new' := by
  induction new generalizing issued with
  | nil => simp [removedDuring]
  | cons i new ih => simp [removedDuring,ih]

theorem removedDuring_of_quiet {r : Respondent} (h : r.Quiet) (issued new : List Issued) :
    r.removedDuring issued new = [] := by
  induction new generalizing issued with
  | nil => rfl
  | cons i new ih => rw [removedDuring,h,ih,List.append_nil]

end Respondent

namespace Session

variable (r : Respondent) (s : Session)

/-- The tasks that are left once an action was carried out. -/
def tasksAfter (a : Action) : TaskTable := (r s.issued a).removed.foldl Dictionary.erase s.tasks

theorem tasksAfter_eq (a : Action) : s.tasksAfter r a =
    (r.removedDuring s.issued [r.record s.issued a]).foldl Dictionary.erase s.tasks := by
  simp [tasksAfter,Respondent.removedDuring,Respondent.record]

theorem tasksAfter_of_quiet {r : Respondent} (h : r.Quiet) (s : Session) (a : Action) :
    s.tasksAfter r a = s.tasks := by
  rw [tasksAfter,h]
  rfl

@[simp] theorem phase_note (e : Log.Entry) : (s.note e).phase = s.phase := rfl
@[simp] theorem tasks_note (e : Log.Entry) : (s.note e).tasks = s.tasks := rfl
@[simp] theorem offers_note (e : Log.Entry) : (s.note e).offers = s.offers := rfl
@[simp] theorem retries_note (e : Log.Entry) : (s.note e).retries = s.retries := rfl
@[simp] theorem issued_note (e : Log.Entry) : (s.note e).issued = s.issued := rfl

@[simp] theorem tasksAfter_note (e : Log.Entry) (a : Action) :
    (s.note e).tasksAfter r a = s.tasksAfter r a := rfl

section

variable (o : Order) (complaint : String)

theorem order_eq : s.order r o complaint = (s.issue r (.order o)).2 ∨
    ∃ e, s.order r o complaint = (s.issue r (.order o)).2.note e := by
  rw [order]
  generalize s.issue r (.order o) = x
  obtain ⟨failure,s'⟩ := x
  cases failure with
  | none => exact .inl rfl
  | some e => exact .inr ⟨_,rfl⟩

@[simp] theorem tasks_order : (s.order r o complaint).tasks = s.tasksAfter r (.order o) := by
  rcases order_eq r s o complaint with h | ⟨e,h⟩ <;> rw [h] <;> rfl

@[simp] theorem offers_order : (s.order r o complaint).offers = s.offers := by
  rcases order_eq r s o complaint with h | ⟨e,h⟩ <;> rw [h] <;> rfl

@[simp] theorem issued_order :
    (s.order r o complaint).issued = s.issued ++ [r.record s.issued (.order o)] := by
  rcases order_eq r s o complaint with h | ⟨e,h⟩ <;> rw [h] <;> rfl

end

section

variable (id : String) (f : Task → Task) (complaint : String)

/-- A change of tasks that cannot be made changes no task. -/
@[simp] theorem tasks_changeTasks :
    (s.changeTasks id (TaskTable.change · id f) complaint).tasks = s.tasks.modify id f := by
  rw [← TaskTable.getD_change,changeTasks]
  cases s.tasks.change id f <;> rfl

@[simp] theorem offers_changeTasks :
    (s.changeTasks id (TaskTable.change · id f) complaint).offers = s.offers := by
  rw [changeTasks]
  cases s.tasks.change id f <;> rfl

@[simp] theorem issued_changeTasks :
    (s.changeTasks id (TaskTable.change · id f) complaint).issued = s.issued := by
  rw [changeTasks]
  cases s.tasks.change id f <;> rfl

end

end Session
end ClusterFramework
