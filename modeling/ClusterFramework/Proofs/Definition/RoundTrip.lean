import ClusterFramework.Definition.Reading
import ClusterFramework.Proofs.Json.Shape

/-! A definition is read back from its printed text. For each part of one, its members are
listed with what is written for them, and every member is read as the part's own field: a
field that is left out has the value that stands for it when it is missing. -/
namespace ClusterFramework
namespace Definition

open Json

namespace UriSpec

def fields (u : UriSpec) : List (String × Option Json) :=
  [("uri",some (ofText u.uri)),("extract",some (bool u.extract)),
    ("executable",some (bool u.executable)),("cache",some (bool u.cache))]

theorem faithful (u : UriSpec) : Faithful ofJson? toJson u := by
  have huri := Fills.required (faithful_text u.uri)
  have hextract := Fills.orElse false (faithful_bool u.extract)
  have hexecutable := Fills.orElse false (faithful_bool u.executable)
  have hcache := Fills.orElse false (faithful_bool u.cache)
  have hwritten : u.toJson = object (written u.fields) := rfl
  refine faithful_object ["uri","extract","executable","cache"] hwritten rfl (by decide) ?_
    fun hmembers => ?_
  · simp only [fields,List.forall_mem_cons]
    exact ⟨huri.printable,hextract.printable,hexecutable.printable,hcache.printable,nofun⟩
  · simp [ofJson?,hmembers,fields,huri.reads,hextract.reads,hexecutable.reads,hcache.reads]

end UriSpec
namespace ResourcesSpec

def doubles (r : ResourcesSpec) : List Binary64 := [r.cpus,r.mem,r.disk]

def fields (r : ResourcesSpec) : List (String × Option Json) :=
  [("cpus",some (ofDouble r.cpus)),("mem",some (ofDouble r.mem)),("disk",some (ofDouble r.disk)),
    ("ports",r.ports.map ofText)]

theorem faithful {r : ResourcesSpec} (hfinite : ∀ x ∈ r.doubles, x.isFinite)
    (hback : ∀ x ∈ r.doubles, ReadsBack x) : Faithful ofJson? toJson r := by
  have hdouble : ∀ x ∈ r.doubles, Fills (orElse .zero double?) (some (ofDouble x)) x :=
    fun x hx => .orElse .zero (faithful_double (hfinite x hx) (hback x hx))
  have hcpus := hdouble r.cpus (by simp [doubles])
  have hmem := hdouble r.mem (by simp [doubles])
  have hdisk := hdouble r.disk (by simp [doubles])
  have hports := Fills.option (o := r.ports) rfl fun s _ => faithful_text s
  have hwritten : r.toJson = object (written r.fields) := by
    simp only [toJson,member_eq_written,optionalMember_eq_written,← written_append]
    rfl
  refine faithful_object ["cpus","mem","disk","ports"] hwritten rfl (by decide) ?_
    fun hmembers => ?_
  · simp only [fields,List.forall_mem_cons]
    exact ⟨hcpus.printable,hmem.printable,hdisk.printable,hports.printable,nofun⟩
  · simp [ofJson?,hmembers,fields,hcpus.reads,hmem.reads,hdisk.reads,hports.reads]

end ResourcesSpec

namespace PortMappingSpec

def fields (m : PortMappingSpec) : List (String × Option Json) :=
  [("hostPort",some (ofNat m.hostPort.toNat)),("containerPort",some (ofNat m.containerPort.toNat)),
    ("protocol",m.protocol.map ofText)]

theorem faithful (m : PortMappingSpec) : Faithful ofJson? toJson m := by
  have hhost := Fills.required (faithful_word32 m.hostPort)
  have hcontainer := Fills.required (faithful_word32 m.containerPort)
  have hprotocol := Fills.option (o := m.protocol) rfl fun s _ => faithful_text s
  have hwritten : m.toJson = object (written m.fields) := by
    simp only [toJson,member_eq_written,optionalMember_eq_written,← written_append]
    rfl
  refine faithful_object ["hostPort","containerPort","protocol"] hwritten rfl (by decide) ?_
    fun hmembers => ?_
  · simp only [fields,List.forall_mem_cons]
    exact ⟨hhost.printable,hcontainer.printable,hprotocol.printable,nofun⟩
  · simp [ofJson?,hmembers,fields,hhost.reads,hcontainer.reads,hprotocol.reads]

end PortMappingSpec
namespace VolumeSpec

def fields (v : VolumeSpec) : List (String × Option Json) :=
  [("containerPath",v.containerPath.map ofText),("hostPath",v.hostPath.map ofText),
    ("readOnly",some (bool v.readOnly))]

theorem faithful (v : VolumeSpec) : Faithful ofJson? toJson v := by
  have hcontainer := Fills.option (o := v.containerPath) rfl fun s _ => faithful_text s
  have hhost := Fills.option (o := v.hostPath) rfl fun s _ => faithful_text s
  have hreadOnly := Fills.orElse false (faithful_bool v.readOnly)
  have hwritten : v.toJson = object (written v.fields) := by
    simp only [toJson,member_eq_written,optionalMember_eq_written,← written_append]
    rfl
  refine faithful_object ["containerPath","hostPath","readOnly"] hwritten rfl (by decide) ?_
    fun hmembers => ?_
  · simp only [fields,List.forall_mem_cons]
    exact ⟨hcontainer.printable,hhost.printable,hreadOnly.printable,nofun⟩
  · simp [ofJson?,hmembers,fields,hcontainer.reads,hhost.reads,hreadOnly.reads]

end VolumeSpec
namespace ContainerSpec

def fields (c : ContainerSpec) : List (String × Option Json) :=
  [("type",some (ofText c.kind.name)),("image",c.image.map ofText),
    ("network",some (ofText c.network.name)),("privileged",some (bool c.privileged)),
    ("forcePull",some (bool c.forcePull)),
    ("portMappings",listed PortMappingSpec.toJson c.portMappings),
    ("volumes",listed VolumeSpec.toJson c.volumes),("parameters",listedTexts c.parameters)]

theorem faithful (c : ContainerSpec) : Faithful ofJson? toJson c := by
  have hkind := Fills.orElse .docker (faithful_choice c.kind.lookup_name)
  have himage := Fills.option (o := c.image) rfl fun s _ => faithful_text s
  have hnetwork := Fills.orElse .bridge (faithful_choice c.network.lookup_name)
  have hprivileged := Fills.orElse false (faithful_bool c.privileged)
  have hforcePull := Fills.orElse false (faithful_bool c.forcePull)
  have hports := Fills.list fun m (_ : m ∈ c.portMappings) => m.faithful
  have hvolumes := Fills.list fun v (_ : v ∈ c.volumes) => v.faithful
  have hparameters := Fills.texts c.parameters
  have hwritten : c.toJson = object (written c.fields) := by
    simp only [toJson,member_eq_written,optionalMember_eq_written,listMember_eq_written,
      textsMember_eq_written,← written_append]
    rfl
  refine faithful_object ["type","image","network","privileged","forcePull","portMappings",
    "volumes","parameters"] hwritten rfl (by decide) ?_ fun hmembers => ?_
  · simp only [fields,List.forall_mem_cons]
    exact ⟨hkind.printable,himage.printable,hnetwork.printable,hprivileged.printable,
      hforcePull.printable,hports.printable,hvolumes.printable,hparameters.printable,nofun⟩
  · simp [ofJson?,hmembers,fields,hkind.reads,himage.reads,hnetwork.reads,hprivileged.reads,
      hforcePull.reads,hports.reads,hvolumes.reads,hparameters.reads]

end ContainerSpec
namespace HealthcheckSpec

def doubles (h : HealthcheckSpec) : List Binary64 :=
  [h.delaySeconds,h.intervalSeconds,h.timeoutSeconds,h.gracePeriodSeconds].filterMap id

def fields (h : HealthcheckSpec) : List (String × Option Json) :=
  [("type",h.kind.map fun k => ofText k.name),("port",some (ofNat h.port.toNat)),
    ("path",h.path.map ofText),("command",h.command.map ofText),
    ("delaySeconds",h.delaySeconds.map ofDouble),("intervalSeconds",h.intervalSeconds.map ofDouble),
    ("timeoutSeconds",h.timeoutSeconds.map ofDouble),
    ("gracePeriodSeconds",h.gracePeriodSeconds.map ofDouble),
    ("consecutiveFailures",h.consecutiveFailures.map fun n => ofNat n.toNat)]

theorem faithful {h : HealthcheckSpec} (hfinite : ∀ x ∈ h.doubles, x.isFinite)
    (hback : ∀ x ∈ h.doubles, ReadsBack x) : Faithful ofJson? toJson h := by
  have hdouble : ∀ o ∈ [h.delaySeconds,h.intervalSeconds,h.timeoutSeconds,h.gracePeriodSeconds],
      Fills (orElse none (option? double?)) (o.map ofDouble) o := fun o ho =>
    .option rfl fun x hx =>
      have hmem : x ∈ h.doubles := List.mem_filterMap.mpr ⟨o,ho,hx⟩
      faithful_double (hfinite x hmem) (hback x hmem)
  have hkind := Fills.option (o := h.kind) rfl fun k _ => faithful_choice k.lookup_name
  have hport := Fills.orElse 0 (faithful_word32 h.port)
  have hpath := Fills.option (o := h.path) rfl fun s _ => faithful_text s
  have hcommand := Fills.option (o := h.command) rfl fun s _ => faithful_text s
  have hdelay := hdouble h.delaySeconds (by simp)
  have hinterval := hdouble h.intervalSeconds (by simp)
  have htimeout := hdouble h.timeoutSeconds (by simp)
  have hgrace := hdouble h.gracePeriodSeconds (by simp)
  have hfailures := Fills.option (o := h.consecutiveFailures) rfl fun n _ => faithful_word32 n
  have hwritten : h.toJson = object (written h.fields) := by
    simp only [toJson,member_eq_written,optionalMember_eq_written,← written_append]
    rfl
  refine faithful_object ["type","port","path","command","delaySeconds","intervalSeconds",
    "timeoutSeconds","gracePeriodSeconds","consecutiveFailures"] hwritten rfl (by decide) ?_
    fun hmembers => ?_
  · simp only [fields,List.forall_mem_cons]
    exact ⟨hkind.printable,hport.printable,hpath.printable,hcommand.printable,hdelay.printable,
      hinterval.printable,htimeout.printable,hgrace.printable,hfailures.printable,nofun⟩
  · simp [ofJson?,hmembers,fields,hkind.reads,hport.reads,hpath.reads,hcommand.reads,
      hdelay.reads,hinterval.reads,htimeout.reads,hgrace.reads,hfailures.reads]

end HealthcheckSpec
namespace RetrySpec

def fields (r : RetrySpec) : List (String × Option Json) :=
  [("maxRetries",some (ofNat r.maxRetries.toNat)),("retryTimeMs",some (ofNat r.retryTimeMs.toNat)),
    ("backoff",some (bool r.backoff))]

theorem faithful (r : RetrySpec) : Faithful ofJson? toJson r := by
  have hmax := Fills.required (faithful_word32 r.maxRetries)
  have htime := Fills.orElse 1000 (faithful_word64 r.retryTimeMs)
  have hbackoff := Fills.orElse false (faithful_bool r.backoff)
  have hwritten : r.toJson = object (written r.fields) := rfl
  refine faithful_object ["maxRetries","retryTimeMs","backoff"] hwritten rfl (by decide) ?_
    fun hmembers => ?_
  · simp only [fields,List.forall_mem_cons]
    exact ⟨hmax.printable,htime.printable,hbackoff.printable,nofun⟩
  · simp [ofJson?,hmembers,fields,hmax.reads,htime.reads,hbackoff.reads]

end RetrySpec
namespace TaskSpec

/-- Every number in a definition that is not an integer. -/
def doubles (t : TaskSpec) : List Binary64 :=
  t.resources.doubles ++ t.healthcheck.toList.flatMap HealthcheckSpec.doubles

def fields (t : TaskSpec) : List (String × Option Json) :=
  [("id",some (ofText t.id)),("name",some (ofText t.name)),("cmd",t.cmd.map ofText),
    ("args",listed ofText t.args),("user",t.user.map ofText),
    ("uris",listed UriSpec.toJson t.uris),("env",listedTexts t.env),
    ("resources",some t.resources.toJson),("container",t.container.map ContainerSpec.toJson),
    ("healthcheck",t.healthcheck.map HealthcheckSpec.toJson),("labels",listedTexts t.labels),
    ("retry",t.retry.map RetrySpec.toJson)]

theorem faithful {t : TaskSpec} (hfinite : ∀ x ∈ t.doubles, x.isFinite)
    (hback : ∀ x ∈ t.doubles, ReadsBack x) : Faithful ofJson? toJson t := by
  have hid := Fills.required (faithful_text t.id)
  have hname := Fills.required (faithful_text t.name)
  have hcmd := Fills.option (o := t.cmd) rfl fun s _ => faithful_text s
  have hargs := Fills.list fun s (_ : s ∈ t.args) => faithful_text s
  have huser := Fills.option (o := t.user) rfl fun s _ => faithful_text s
  have huris := Fills.list fun u (_ : u ∈ t.uris) => u.faithful
  have henv := Fills.texts t.env
  have hresources : Fills (orElse {} ResourcesSpec.ofJson?) (some t.resources.toJson)
      t.resources :=
    have hmem : ∀ x ∈ t.resources.doubles, x ∈ t.doubles := fun _ => List.mem_append_left _
    .orElse {} (ResourcesSpec.faithful (fun x hx => hfinite x (hmem x hx)) fun x hx =>
      hback x (hmem x hx))
  have hcontainer := Fills.option (o := t.container) rfl fun c _ => c.faithful
  have hhealthcheck : Fills (orElse none (option? HealthcheckSpec.ofJson?))
      (t.healthcheck.map HealthcheckSpec.toJson) t.healthcheck := .option rfl fun h hh =>
    have hmem : ∀ x ∈ h.doubles, x ∈ t.doubles := fun x hx =>
      List.mem_append_right _ (List.mem_flatMap.mpr ⟨h,Option.mem_toList.mpr hh,hx⟩)
    HealthcheckSpec.faithful (fun x hx => hfinite x (hmem x hx)) fun x hx => hback x (hmem x hx)
  have hlabels := Fills.texts t.labels
  have hretry := Fills.option (o := t.retry) rfl fun r _ => r.faithful
  have hwritten : t.toJson = object (written t.fields) := by
    simp only [toJson,member_eq_written,optionalMember_eq_written,listMember_eq_written,
      textsMember_eq_written,← written_append]
    rfl
  refine faithful_object ["id","name","cmd","args","user","uris","env","resources","container",
    "healthcheck","labels","retry"] hwritten rfl (by decide) ?_ fun hmembers => ?_
  · simp only [fields,List.forall_mem_cons]
    exact ⟨hid.printable,hname.printable,hcmd.printable,hargs.printable,huser.printable,
      huris.printable,henv.printable,hresources.printable,hcontainer.printable,
      hhealthcheck.printable,hlabels.printable,hretry.printable,nofun⟩
  · simp [ofJson?,hmembers,fields,hid.reads,hname.reads,hcmd.reads,hargs.reads,huser.reads,
      huris.reads,henv.reads,hresources.reads,hcontainer.reads,hhealthcheck.reads,
      hlabels.reads,hretry.reads]

/-- The text of a definition as it is printed after it has been read. -/
def normalize? (text : String) : Option String := (read? text).map print

/-- A definition is read back from its printed text, and what has been normalized once stays as
it is. -/
theorem read?_print (t : TaskSpec) (hfinite : ∀ x ∈ t.doubles, x.isFinite)
    (hback : ∀ x ∈ t.doubles, ReadsBack x) :
    read? t.print = some t ∧ ∀ text, read? text = some t →
      normalize? text = some t.print ∧ normalize? t.print = some t.print := by
  have hfaithful := t.faithful hfinite hback
  have hread : read? t.print = some t := by
    rw [read?,print,parse?_print hfaithful.printable,Option.bind_some,hfaithful.reads]
  refine ⟨hread,fun text htext => ⟨?_,?_⟩⟩
  · rw [normalize?,htext,Option.map_some]
  · rw [normalize?,hread,Option.map_some]

/-- A definition with something to escape in its strings, options that are absent and options
that hold the value for a missing one, and a retry time that is not the one for a missing
one. -/
def escaped : TaskSpec where
  id := "web-1"
  name := "a \"quoted\" \\ name"
  cmd := some ""
  args := ["é\t\x01","","𝄞"]
  env := .ofList [("",""),("KEY\n","\x7f")]
  resources := { cpus := ⟨0x3fb999999999999a⟩, mem := ⟨0x4060000000000000⟩ }
  container := some { network := .none, portMappings := [⟨31000,8080,none⟩] }
  healthcheck := some { kind := some .http, delaySeconds := some ⟨0x3fe0000000000000⟩ }
  retry := some { maxRetries := 0xffffffff, retryTimeMs := 0 }

/-- Its numbers are 0.1, 128.0, 0.0 and 0.5. -/
theorem read?_print_escaped : (∀ x ∈ escaped.doubles, x.isFinite) ∧
    (∀ x ∈ escaped.doubles, ReadsBack x) ∧ read? escaped.print = some escaped ∧
    normalize? escaped.print = some escaped.print := by
  have hfinite : ∀ x ∈ escaped.doubles, x.isFinite := by decide
  have hback : ∀ x ∈ escaped.doubles, ReadsBack x := by decide +kernel
  obtain ⟨hread,hnormalize⟩ := read?_print escaped hfinite hback
  exact ⟨hfinite,hback,hread,(hnormalize escaped.print hread).2⟩

end TaskSpec
end Definition
end ClusterFramework
