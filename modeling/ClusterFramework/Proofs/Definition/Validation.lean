import ClusterFramework.Definition.Validation

/-! When a definition is accepted, and how it is refused. All that a definition has to meet
stands in one list, in the order in which it is looked at and each with the error that reports
it. Every function that reads a part of a definition decides by the part of the list that is
about it: it refuses for the first requirement that is not met, and only for that. -/
namespace ClusterFramework
namespace Definition

/-- What is required, and the error if it is not met. -/
structure Requirement where
  met : Bool
  error : SpecError
  deriving DecidableEq,Repr

def firstError (qs : List Requirement) : Option SpecError :=
  (qs.find? fun q => !q.met).map Requirement.error

section

variable {qs qs' : List Requirement}

theorem firstError_append : firstError (qs ++ qs') = (firstError qs).or (firstError qs') := by
  rw [firstError,firstError,firstError,List.find?_append]
  cases qs.find? fun q => !q.met <;> rfl

theorem firstError_eq_none_iff : firstError qs = none ↔ ∀ q ∈ qs, q.met := by
  simp [firstError]

theorem firstError_eq_some_iff {e : SpecError} : firstError qs = some e ↔
    ∃ before q after, qs = before ++ q :: after ∧ (∀ p ∈ before, p.met) ∧ q.met = false ∧
      q.error = e := by
  simp only [firstError,Option.map_eq_some_iff,List.find?_eq_some_iff_append,Bool.not_not,
    Bool.not_eq_true']
  constructor
  · rintro ⟨q,⟨hq,before,after,hqs,hbefore⟩,he⟩
    exact ⟨before,q,after,hqs,hbefore,hq,he⟩
  · rintro ⟨before,q,after,hqs,hbefore,hq,he⟩
    exact ⟨q,⟨hq,before,after,hqs,hbefore⟩,he⟩

end

def refusal {α : Type} : Except SpecError α → Option SpecError
  | .ok _ => none
  | .error e => some e

/-- A result is refused for the first requirement that is not met, and only for that. -/
def Decides {α : Type} (qs : List Requirement) (x : Except SpecError α) : Prop :=
  refusal x = firstError qs

namespace Decides

variable {α β : Type} {qs qs' : List Requirement} {x : Except SpecError α}

theorem ok_iff (h : Decides qs x) : (∃ a, x = .ok a) ↔ ∀ q ∈ qs, q.met := by
  rw [← firstError_eq_none_iff,← h]
  cases x <;> simp [refusal]

theorem error_iff (h : Decides qs x) {e : SpecError} : x = .error e ↔
    ∃ before q after, qs = before ++ q :: after ∧ (∀ p ∈ before, p.met) ∧ q.met = false ∧
      q.error = e := by
  rw [← firstError_eq_some_iff,← h]
  cases x <;> simp [refusal]

theorem pure (a : α) : Decides [] (.ok a) := rfl

theorem guarded (h : Decides qs x) (c : Bool) (e : SpecError) :
    Decides (⟨!c,e⟩ :: qs) (if c then .error e else x) := by
  cases c with
  | true => rfl
  | false => exact h

theorem bind {f : α → Except SpecError β} (h : Decides qs x)
    (hf : ∀ a, Decides qs' (f a)) : Decides (qs ++ qs') (x >>= f) := by
  rw [Decides] at h
  rw [Decides,firstError_append,← h]
  cases x with
  | ok a => exact hf a
  | error e => rfl

theorem list_mapM {f : β → Except SpecError α} {g : β → List Requirement}
    (h : ∀ b, Decides (g b) (f b)) (bs : List β) : Decides (bs.flatMap g) (bs.mapM f) := by
  induction bs with
  | nil => rfl
  | cons b bs ih =>
    rw [List.flatMap_cons,List.mapM_cons]
    refine (h b).bind fun a => ?_
    rw [← List.append_nil (bs.flatMap g)]
    exact ih.bind fun as => .pure (a :: as)

theorem option_mapM {f : β → Except SpecError α} {g : β → List Requirement}
    (h : ∀ b, Decides (g b) (f b)) (o : Option β) :
    Decides (o.toList.flatMap g) (o.mapM f) := by
  cases o with
  | none => rfl
  | some b =>
    rw [Option.mapM_some,Option.toList_some,List.flatMap_singleton,← List.append_nil (g b),
      map_eq_pure_bind]
    exact (h b).bind fun a => .pure (some a)

end Decides

theorem not_allBlank_iff (s : String) :
    (!Text.allBlank s) = true ↔ ∃ c ∈ s.toList, ¬Text.isBlank c := by
  simp [Text.allBlank]

theorem exists_filled_iff (o : Option String) :
    (∃ s ∈ o, s ≠ "") ↔ (o.filter (· ≠ "")).isSome := by
  cases o with
  | none => simp
  | some s => by_cases hs : s = "" <;> simp [hs,Option.filter_some]

/-- Ports that are given have to be numbers or ranges. -/
def ResourcesSpec.requirements (r : ResourcesSpec) : List Requirement :=
  [⟨∀ ports ∈ r.ports, !Text.allBlank ports → (portRanges? ports).isSome,
    .badPortRange (r.ports.getD "")⟩]

theorem ResourcesSpec.decides_toResources (r : ResourcesSpec) :
    Decides r.requirements r.toResources := by
  rw [Decides,toResources,requirements]
  cases r.ports with
  | none => rfl
  | some ports =>
    cases hblank : Text.allBlank ports with
    | true => simp [hblank,Option.filter_some,refusal,firstError]
    | false =>
      simp only [hblank,Option.filter_some,readPortRanges,firstError]
      cases hranges : portRanges? ports <;>
        simp [hranges,hblank,refusal,Functor.map,Except.map]

/-- What is asked for: the amounts above zero, and then the ports. -/
theorem ResourcesSpec.eq_of_toResources_eq_ok {r : ResourcesSpec} {rs : List Resource}
    (h : r.toResources = .ok rs) : rs = r.scalars ++
      (((r.ports.filter fun ports => !Text.allBlank ports).bind portRanges?).map
        (Resource.ofRanges "ports")).toList := by
  rw [toResources] at h
  cases hports : r.ports.filter fun ports => !Text.allBlank ports with
  | none =>
    rw [hports] at h
    cases h
    exact (List.append_nil _).symm
  | some ports =>
    simp only [hports,readPortRanges] at h
    cases hranges : portRanges? ports with
    | none => rw [hranges] at h; cases h
    | some ranges =>
      rw [hranges] at h
      cases h
      simp [hranges]

namespace HealthcheckSpec

/-- A check has a type, and with some types it needs to know what to ask for. -/
def requirements (h : HealthcheckSpec) : List Requirement :=
  [⟨h.kind.isSome,.missingHealthcheckType⟩,
    ⟨h.kind = some .http → ∃ path ∈ h.path, path ≠ "",.missingHttpPath⟩,
    ⟨h.kind = some .command → h.command.isSome,.missingField "healthcheck.command"⟩]

theorem decides_toHealthCheck (h : HealthcheckSpec) : Decides h.requirements h.toHealthCheck := by
  rw [Decides,toHealthCheck,requirements]
  cases h.kind with
  | none => rfl
  | some kind =>
    cases kind with
    | tcp => simp [refusal,firstError]
    | http =>
      simp only [exists_filled_iff]
      cases h.path.filter (· ≠ "") <;> simp [refusal,firstError]
    | command => cases h.command <;> simp [refusal,firstError]

end HealthcheckSpec

namespace VolumeSpec

def incomplete (v : VolumeSpec) : String :=
  match v.containerPath.or v.hostPath with
  | some path => path ++ " (containerPath and hostPath must be set together)"
  | none => "volume has neither containerPath nor hostPath"

/-- A volume has both paths, and they start at the root. -/
def requirements (v : VolumeSpec) : List Requirement :=
  [⟨v.containerPath.isSome ∧ v.hostPath.isSome,.volumePath v.incomplete⟩,
    ⟨∀ path ∈ v.containerPath, path.toList.head? = some '/',
      .volumePath (v.containerPath.getD "")⟩,
    ⟨∀ path ∈ v.hostPath, path.toList.head? = some '/',.volumePath (v.hostPath.getD "")⟩]

theorem met_requirements_iff (v : VolumeSpec) : (∀ q ∈ v.requirements, q.met) ↔
    ∃ inside ∈ v.containerPath, ∃ outside ∈ v.hostPath,
      inside.toList.head? = some '/' ∧ outside.toList.head? = some '/' := by
  rw [requirements]
  cases v.containerPath <;> cases v.hostPath <;> simp

theorem decides_toVolume (v : VolumeSpec) : Decides v.requirements v.toVolume := by
  rw [Decides,toVolume,requirements,incomplete]
  cases v.containerPath with
  | none => cases v.hostPath <;> simp [refusal,firstError]
  | some inside =>
    cases v.hostPath with
    | none => simp [refusal,firstError]
    | some outside =>
      by_cases hinside : inside.toList.head? = some '/' <;>
        by_cases houtside : outside.toList.head? = some '/' <;>
          simp [isAbsolute,hinside,houtside,refusal,firstError]

end VolumeSpec

namespace ContainerSpec

def requirements (c : ContainerSpec) : List Requirement :=
  c.volumes.flatMap VolumeSpec.requirements ++
    [⟨c.kind = .docker → ∃ image ∈ c.image, image ≠ "",.missingField "container.image"⟩]

theorem decides_toContainer (c : ContainerSpec) : Decides c.requirements c.toContainer := by
  refine (Decides.list_mapM VolumeSpec.decides_toVolume c.volumes).bind fun volumes => ?_
  simp only [exists_filled_iff]
  cases c.kind with
  | mesos => exact Decides.guarded (.pure _) false _
  | docker =>
    cases c.image.filter (· ≠ "") with
    | none => rfl
    | some image => rfl

end ContainerSpec

namespace TaskSpec

/-- All that a definition has to meet, in order. -/
def requirements (t : TaskSpec) : List Requirement :=
  [⟨!Text.allBlank t.id,.missingField "id"⟩,⟨!Text.allBlank t.name,.missingField "name"⟩,
    ⟨t.cmd.isSome ∨ t.container.isSome,.missingField "cmd"⟩] ++
    t.resources.requirements ++ t.healthcheck.toList.flatMap HealthcheckSpec.requirements ++
    t.container.toList.flatMap ContainerSpec.requirements

def assemble (t : TaskSpec) : Except SpecError Task := do
  let resources ← t.resources.toResources
  let healthCheck ← t.healthcheck.mapM HealthcheckSpec.toHealthCheck
  let container ← t.container.mapM ContainerSpec.toContainer
  pure
    { id := t.id
      name := t.name
      command := some t.toCommand
      container := container
      labels := t.toLabels
      healthCheck := healthCheck
      resources := resources
      retry := t.toRetry }

theorem toTask_eq (t : TaskSpec) : t.toTask =
    if Text.allBlank t.id then .error (.missingField "id")
    else if Text.allBlank t.name then .error (.missingField "name")
    else if t.cmd.isNone && t.container.isNone then .error (.missingField "cmd")
    else t.assemble := rfl

theorem decides_assemble (t : TaskSpec) :
    Decides (t.resources.requirements ++
      (t.healthcheck.toList.flatMap HealthcheckSpec.requirements ++
        t.container.toList.flatMap ContainerSpec.requirements)) t.assemble := by
  refine t.resources.decides_toResources.bind fun resources => ?_
  refine (Decides.option_mapM HealthcheckSpec.decides_toHealthCheck _).bind fun check => ?_
  rw [← List.append_nil (t.container.toList.flatMap _)]
  exact (Decides.option_mapM ContainerSpec.decides_toContainer _).bind fun container => .pure _

theorem decides_toTask (t : TaskSpec) : Decides t.requirements t.toTask := by
  have hruns : (!(t.cmd.isNone && t.container.isNone)) =
      decide (t.cmd.isSome ∨ t.container.isSome) := by
    cases t.cmd <;> cases t.container <;> rfl
  rw [toTask_eq,requirements,← hruns]
  simp only [List.append_assoc,List.cons_append,List.nil_append]
  exact ((t.decides_assemble.guarded _ _).guarded _ _).guarded _ _

/-- What makes a definition one of a task that can be run. -/
structure Acceptable (t : TaskSpec) : Prop where
  id : ∃ c ∈ t.id.toList, ¬Text.isBlank c
  name : ∃ c ∈ t.name.toList, ¬Text.isBlank c
  runs : t.cmd.isSome ∨ t.container.isSome
  ports : ∀ ports ∈ t.resources.ports, (∃ c ∈ ports.toList, ¬Text.isBlank c) →
    (portRanges? ports).isSome
  checkKind : ∀ h ∈ t.healthcheck, h.kind.isSome
  checkPath : ∀ h ∈ t.healthcheck, h.kind = some .http → ∃ path ∈ h.path, path ≠ ""
  checkCommand : ∀ h ∈ t.healthcheck, h.kind = some .command → h.command.isSome
  volumes : ∀ c ∈ t.container, ∀ v ∈ c.volumes, ∃ inside ∈ v.containerPath,
    ∃ outside ∈ v.hostPath, inside.toList.head? = some '/' ∧ outside.toList.head? = some '/'
  image : ∀ c ∈ t.container, c.kind = .docker → ∃ image ∈ c.image, image ≠ ""

theorem acceptable_iff (t : TaskSpec) : t.Acceptable ↔ ∀ q ∈ t.requirements, q.met := by
  simp only [requirements,ResourcesSpec.requirements,HealthcheckSpec.requirements,
    ContainerSpec.requirements,List.forall_mem_append,List.forall_mem_cons,List.forall_mem_flatMap,
    Option.mem_toList,VolumeSpec.met_requirements_iff,not_allBlank_iff,decide_eq_true_eq,
    List.not_mem_nil,false_implies,implies_true,and_true]
  constructor
  · intro h
    exact ⟨⟨⟨⟨h.id,h.name,h.runs⟩,h.ports⟩,
      fun c hc => ⟨h.checkKind c hc,h.checkPath c hc,h.checkCommand c hc⟩⟩,
      fun c hc => ⟨h.volumes c hc,h.image c hc⟩⟩
  · rintro ⟨⟨⟨⟨hid,hname,hruns⟩,hports⟩,hcheck⟩,hcontainer⟩
    exact ⟨hid,hname,hruns,hports,fun c hc => (hcheck c hc).1,fun c hc => (hcheck c hc).2.1,
      fun c hc => (hcheck c hc).2.2,fun c hc => (hcontainer c hc).1,
      fun c hc => (hcontainer c hc).2⟩

theorem of_toTask_eq_ok {t : TaskSpec} {task : Task} (h : t.toTask = .ok task) :
    task.id = t.id ∧ task.name = t.name ∧ task.state = .queued ∧ task.status = none ∧
      task.agentId = none ∧ t.resources.toResources = .ok task.resources := by
  rw [toTask_eq] at h
  split at h
  · cases h
  split at h
  · cases h
  split at h
  · cases h
  rw [assemble] at h
  cases hresources : t.resources.toResources with
  | error e => rw [hresources] at h; cases h
  | ok resources =>
    cases hcheck : t.healthcheck.mapM HealthcheckSpec.toHealthCheck with
    | error e => rw [hresources,hcheck] at h; cases h
    | ok check =>
      cases hcontainer : t.container.mapM ContainerSpec.toContainer with
      | error e => rw [hresources,hcheck,hcontainer] at h; cases h
      | ok container =>
        rw [hresources,hcheck,hcontainer] at h
        cases h
        exact ⟨rfl,rfl,rfl,rfl,rfl,rfl⟩

end TaskSpec

end Definition
end ClusterFramework
