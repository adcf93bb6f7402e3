import ClusterFramework.Proofs.Definition.Ports
import ClusterFramework.Proofs.Definition.Validation
import ClusterFramework.Proofs.Json.Acceptance

/-! Definitions in an array. Each is read as it would be read alone; and whether all of them can be
read is settled before any of them is looked at, so that one that cannot be read is reported
although an earlier one may be refused. -/
namespace ClusterFramework

namespace Json

def arrayText (ts : List String) : String :=
  String.ofList ('[' :: (Text.joinWith ',' (ts.map String.toList) ++ [']']))

theorem parse?_arrayText {ts : List String} (h : ∀ t ∈ ts, WellFormed t.toList) :
    ∃ vs, List.Forall₂ (fun t v => parse? t = some v) ts vs ∧
      parse? (arrayText ts) = some (array vs) := by
  have : Nonempty Json := ⟨null⟩
  have hspells : ∀ t ∈ ts, ∃ v, Spells t.toList v := fun t ht => (h t ht).spells
  choose! value hvalue using hspells
  refine ⟨ts.map value,?_,(spells_array hvalue).parse?⟩
  rw [List.forall₂_map_right_iff,List.forall₂_same]
  intro t ht
  rw [← (hvalue t ht).parse?,String.ofList_toList]

end Json
namespace Definition

section

variable {ε α β γ : Type}

theorem mapM_congr_of_forall₂ {m : Type → Type} [Monad m] [LawfulMonad m] {R : α → β → Prop}
    {f : α → m γ} {g : β → m γ} (hfg : ∀ a b, R a b → f a = g b) {as : List α} {bs : List β}
    (h : List.Forall₂ R as bs) : as.mapM f = bs.mapM g := by
  induction h with
  | nil => rfl
  | cons hab _ ih => rw [List.mapM_cons,List.mapM_cons,hfg _ _ hab,ih]

variable {f : α → Except ε β} {as : List α}

theorem mapM_eq_ok_iff {bs : List β} :
    as.mapM f = .ok bs ↔ List.Forall₂ (fun a b => f a = .ok b) as bs := by
  induction as generalizing bs with
  | nil => cases bs <;> simp [pure,Except.pure]
  | cons a as ih =>
    simp only [List.mapM_cons,List.forall₂_cons_left_iff,← ih]
    cases f a with
    | error e => simp [bind,Except.bind]
    | ok b => cases as.mapM f <;> simp [bind,Except.bind,pure,Except.pure,eq_comm]

theorem mapM_cons_eq_error_iff {a : α} {e : ε} : (a :: as).mapM f = .error e ↔
    f a = .error e ∨ (∃ b, f a = .ok b) ∧ as.mapM f = .error e := by
  rw [List.mapM_cons]
  cases f a with
  | error e' => simp [bind,Except.bind]
  | ok b => cases as.mapM f <;> simp [bind,Except.bind,pure,Except.pure]

/-- The first failure is the one that is reported. -/
theorem mapM_eq_error_iff {e : ε} : as.mapM f = .error e ↔ ∃ before a after,
    as = before ++ a :: after ∧ (∀ b ∈ before, ∃ c, f b = .ok c) ∧ f a = .error e := by
  induction as with
  | nil => simp [pure,Except.pure]
  | cons a as ih =>
    rw [mapM_cons_eq_error_iff,ih]
    constructor
    · rintro (ha | ⟨hok,before,b,after,rfl,hbefore,hb⟩)
      · exact ⟨[],a,as,rfl,List.forall_mem_nil _,ha⟩
      · exact ⟨a :: before,b,after,rfl,List.forall_mem_cons.mpr ⟨hok,hbefore⟩,hb⟩
    · rintro ⟨before,b,after,has,hbefore,hb⟩
      cases before with
      | nil =>
        cases has
        exact .inl hb
      | cons c before =>
        cases has
        obtain ⟨hok,hbefore⟩ := List.forall_mem_cons.mp hbefore
        exact .inr ⟨hok,before,b,after,rfl,hbefore,hb⟩

end

theorem TaskSpec.error_ne_invalidJson (t : TaskSpec) :
    ∀ q ∈ t.requirements, q.error ≠ .invalidJson := by
  simp only [requirements,ResourcesSpec.requirements,HealthcheckSpec.requirements,
    ContainerSpec.requirements,VolumeSpec.requirements,List.forall_mem_append,
    List.forall_mem_cons,List.forall_mem_flatMap]
  simp

theorem readTask_eq_invalidJson_iff {t : String} :
    readTask t = .error .invalidJson ↔ TaskSpec.read? t = none := by
  rw [readTask]
  cases TaskSpec.read? t with
  | none => simp
  | some spec =>
    refine iff_of_false (fun h => ?_) nofun
    obtain ⟨before,q,after,hqs,-,-,hq⟩ := spec.decides_toTask.error_iff.mp h
    exact spec.error_ne_invalidJson q (by simp [hqs]) hq

theorem readTask_of_read? {t : String} {spec : TaskSpec} (h : TaskSpec.read? t = some spec) :
    readTask t = spec.toTask := by
  rw [readTask,h]

section

variable {ts : List String}

theorem readAll?_arrayText (h : ∀ t ∈ ts, Json.WellFormed t.toList) :
    TaskSpec.readAll? (Json.arrayText ts) = ts.mapM TaskSpec.read? := by
  obtain ⟨vs,hvs,harray⟩ := Json.parse?_arrayText h
  rw [TaskSpec.readAll?,harray,Option.bind_some,Json.list?]
  exact (mapM_congr_of_forall₂ (fun t v htv => by rw [TaskSpec.read?,htv,Option.bind_some])
    hvs).symm

theorem readTasks_of_unreadable (h : ∀ t ∈ ts, Json.WellFormed t.toList) {t : String}
    (ht : t ∈ ts) (hnone : TaskSpec.read? t = none) :
    readTasks (Json.arrayText ts) = .error .invalidJson := by
  have hall : ts.mapM TaskSpec.read? = none := by
    refine Option.eq_none_iff_forall_not_mem.mpr fun specs hspecs => ?_
    obtain ⟨spec,hspec⟩ := exists_forall₂_iff.mp ⟨specs,mapM_eq_some_iff.mp hspecs⟩ t ht
    rw [hnone] at hspec
    cases hspec
  rw [readTasks,readAll?_arrayText h,hall]

theorem readTasks_of_readable (h : ∀ t ∈ ts, Json.WellFormed t.toList)
    (hsome : ∀ t ∈ ts, ∃ spec, TaskSpec.read? t = some spec) :
    readTasks (Json.arrayText ts) = ts.mapM readTask := by
  obtain ⟨specs,hspecs⟩ := exists_forall₂_iff.mpr hsome
  rw [readTasks,readAll?_arrayText h,mapM_eq_some_iff.mpr hspecs]
  exact (mapM_congr_of_forall₂ (fun t spec hspec => readTask_of_read? hspec) hspecs).symm

/-- If one of the elements cannot be read, then this is what is reported. Otherwise it is the
first element that is refused, and if there is none, then the tasks are those of the elements, in
their order. -/
theorem readTasks_decided (h : ∀ t ∈ ts, Json.WellFormed t.toList) :
    (readTasks (Json.arrayText ts) = .error .invalidJson ↔
      ∃ t ∈ ts, readTask t = .error .invalidJson) ∧
    (∀ e ≠ .invalidJson, readTasks (Json.arrayText ts) = .error e ↔
      (∀ t ∈ ts, readTask t ≠ .error .invalidJson) ∧ ∃ before t after,
        ts = before ++ t :: after ∧ (∀ t ∈ before, ∃ task, readTask t = .ok task) ∧
          readTask t = .error e) ∧
    ∀ tasks, readTasks (Json.arrayText ts) = .ok tasks ↔
      List.Forall₂ (fun t task => readTask t = .ok task) ts tasks := by
  by_cases hread : ∃ t ∈ ts, readTask t = .error .invalidJson
  · obtain ⟨t,ht,he⟩ := hread
    rw [readTasks_of_unreadable h ht (readTask_eq_invalidJson_iff.mp he)]
    refine ⟨iff_of_true rfl ⟨t,ht,he⟩,fun e hne => ?_,fun tasks => ?_⟩
    · exact iff_of_false (fun h => hne (Except.error.inj h).symm) fun h => h.1 t ht he
    · refine iff_of_false nofun fun htasks => ?_
      obtain ⟨task,htask⟩ := exists_forall₂_iff.mp ⟨tasks,htasks⟩ t ht
      rw [he] at htask
      cases htask
  · have hnone : ∀ t ∈ ts, readTask t ≠ .error .invalidJson := fun t ht he => hread ⟨t,ht,he⟩
    have hsome : ∀ t ∈ ts, ∃ spec, TaskSpec.read? t = some spec := fun t ht =>
      Option.ne_none_iff_exists'.mp (mt readTask_eq_invalidJson_iff.mpr (hnone t ht))
    rw [readTasks_of_readable h hsome]
    refine ⟨iff_of_false (fun he => ?_) hread,fun e _ => ?_,fun tasks => mapM_eq_ok_iff⟩
    · obtain ⟨before,t,after,rfl,-,ht⟩ := mapM_eq_error_iff.mp he
      exact hread ⟨t,by simp,ht⟩
    · rw [mapM_eq_error_iff,and_iff_right hnone]

end

/-- A definition without an id is what is reported, unless a number comes after it. -/
theorem readTasks_mixed :
    let nameless := " \x7b\"id\": \"\", \"name\": \"b\", \"old\": [0e1, \"\\uD800\"]\x7d\n"
    let listed := "[\"a\",\"b\",\"true\"]"
    readTasks (Json.arrayText [nameless,listed]) = .error (.missingField "id") ∧
      readTasks (Json.arrayText [nameless,listed,"3"]) = .error .invalidJson := by
  intro nameless listed
  have hnameless : readTask nameless = .error (.missingField "id") := by decide +kernel
  obtain ⟨-,hrefused,-⟩ := @readTasks_decided [nameless,listed] (by decide +kernel)
  constructor
  · refine (hrefused (.missingField "id") nofun).mpr ⟨by decide +kernel,?_⟩
    exact ⟨[],nameless,[listed],rfl,List.forall_mem_nil _,hnameless⟩
  · exact (readTasks_decided (by decide +kernel)).1.mpr ⟨"3",by simp,by decide +kernel⟩

end Definition
end ClusterFramework
