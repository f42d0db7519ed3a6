import Manifests.Proofs.Repetition.Adding
import Manifests.Proofs.Repetition.Frames
import Manifests.Proofs.Repetition.Progress

/-! The progress of whole resources.  Every enricher that adds makes progress or changes nothing, as
long as secrets are not annotated again, and the labelling and the adaptation lose none. -/
namespace Manifests

open Enricher.DefaultService (serviceSpec?)
open Enricher.RegistrySecrets (serverId? serverIdKey)

/-! ### Parts of resources -/

def podProgress (d : String) : Option PodSpec → Nat
  | none => 0
  | some s => s.progress d + 1

lemma podProgress_withInits (d : String) (s : Option PodSpec) :
    podProgress d (s.map (PodSpec.withInits none)) = podProgress d s := by
  cases s <;> rfl

def ServicePort.progress (p : ServicePort) : Nat := textProgress p.name + textProgress p.protocol

/-- An empty list of ports may disappear, and ports may turn up then. -/
def portsProgress : Option (List ServicePort) → Nat
  | none => 1
  | some [] => 0
  | some (p :: ports) => totalProgress ServicePort.progress (p :: ports) + 1

def specProgress : Option ServiceSpec → Nat
  | none => 0
  | some s => portsProgress s.ports + 1

namespace Resource

/-- The server that a secret names, if it is one of those given. -/
def pending? (server? : String → Option Config.RegistryServer) (r : Resource) :
    Option Config.RegistryServer :=
  if r.kind = .secret then (serverId? r).bind server? else none

lemma pending?_eq_some {server? : String → Option Config.RegistryServer} {r : Resource}
    {server : Config.RegistryServer} : r.pending? server? = some server ↔
      r.kind = .secret ∧ ∃ id, serverId? r = some id ∧ server? id = some server := by
  unfold pending?
  split
  next hkind => simp [hkind, Option.bind_eq_some_iff]
  next hkind => simp [hkind]

lemma serviceSpec?_of_kind {r : Resource} (h : r.kind ≠ .service) : serviceSpec? r = none := by
  obtain ⟨m, content⟩ := r
  cases content with
  | service => exact absurd rfl h
  | _ => rfl

lemma content_of_serviceSpec? {r : Resource} {spec : ServiceSpec} (h : serviceSpec? r = some spec) :
    r.content = .service (some spec) := by
  obtain ⟨m, content⟩ := r
  cases content with
  | service s =>
    cases h
    rfl
  | _ => cases h

/-- A trigger outweighs the image that it may blank. -/
def contentProgress (d : String) (r : Resource) : Nat :=
  partProgress r.replicas? + podProgress d r.podSpec? + specProgress (serviceSpec? r) +
    3 * (r.content.triggers.getD []).length

def progress (d : String) (server? : String → Option Config.RegistryServer) (r : Resource) : Nat :=
  nameProgress d r.metadata.name + (if (r.pending? server?).isSome then 0 else 1) +
    r.contentProgress d

variable {d : String} {server? : String → Option Config.RegistryServer} {c : Enricher.Context}
  {r s : Resource}

/-- A resource whose replicas and pods have changed, and nothing else that counts. -/
structure Reworked (r s : Resource) : Prop where
  metadata : s.metadata = r.metadata
  kind : s.kind = r.kind
  serviceSpec : serviceSpec? s = serviceSpec? r
  triggers : s.content.triggers = r.content.triggers

lemma Reworked.pending? (h : r.Reworked s) : s.pending? server? = r.pending? server? := by
  rw [Resource.pending?, Resource.pending?, h.kind, serverId?, serverId?, h.metadata]

lemma Reworked.advances (h : r.Reworked s)
    (hle : partProgress r.replicas? + podProgress d r.podSpec? ≤
      partProgress s.replicas? + podProgress d s.podSpec?)
    (heq : partProgress s.replicas? + podProgress d s.podSpec? ≤
      partProgress r.replicas? + podProgress d r.podSpec? → s = r) :
    Advances (progress d server?) r s := by
  refine ⟨?_, fun hnew => heq ?_⟩
  · unfold progress contentProgress
    rw [h.metadata, h.serviceSpec, h.triggers, h.pending?]
    omega
  · unfold progress contentProgress at hnew
    rw [h.metadata, h.serviceSpec, h.triggers, h.pending?] at hnew
    omega

lemma serviceSpec?_modifyTemplate (f : PodTemplateSpec → PodTemplateSpec) (r : Resource) :
    serviceSpec? (r.modifyTemplate f) = serviceSpec? r := by
  obtain ⟨m, content⟩ := r
  cases content <;> rfl

lemma reworked_modifyPodSpec (f : PodSpec → PodSpec) (r : Resource) :
    r.Reworked (r.modifyPodSpec f) :=
  ⟨rfl, kind_modifyPodSpec f r, serviceSpec?_modifyTemplate _ r,
    Content.triggers_modifyTemplate _ r.content⟩

lemma advances_modifyPodSpec {f : PodSpec → PodSpec}
    (h : ∀ pod, r.podSpec? = some pod → Advances (PodSpec.progress d) pod (f pod)) :
    Advances (progress d server?) r (r.modifyPodSpec f) := by
  apply (reworked_modifyPodSpec f r).advances
  all_goals rw [replicas?_modifyPodSpec, podSpec?_modifyPodSpec]
  · cases hpod : r.podSpec? with
    | none => exact Nat.le_refl _
    | some pod =>
      have hle := (h pod hpod).le
      simp only [Option.map_some, podProgress]
      omega
  · intro hnew
    refine modifyPodSpec_eq_self fun pod hpod => (h pod hpod).eq_of_le ?_
    rw [hpod] at hnew
    simp only [Option.map_some, podProgress] at hnew
    omega

lemma reworked_ensureTemplate (r : Resource) : r.Reworked r.ensureTemplate := by
  refine ⟨rfl, kind_ensureTemplate r, ?_, ?_⟩
  all_goals
    obtain ⟨m, content⟩ := r
    cases content <;> rename_i spec <;> cases spec <;> rfl

lemma advances_ensureTemplate (hkind : r.kind.isController = true) :
    Advances (progress d server?) r r.ensureTemplate := by
  cases hpod : r.podSpec? with
  | some pod =>
    rw [ensureTemplate_eq_self hpod]
    exact .refl r
  | none =>
    apply (reworked_ensureTemplate r).advances
    all_goals rw [replicas?_ensureTemplate, podSpec?_ensureTemplate hkind, hpod]
    · simp only [podProgress]
      omega
    · simp only [podProgress, Option.getD_none]
      omega

lemma contentProgress_of_secret (h : r.kind = .secret) : r.contentProgress d = 0 := by
  obtain ⟨m, content⟩ := r
  cases content with
  | secret => rfl
  | _ => cases h

/-- Another specification of a service that makes progress. -/
lemma advances_service {spec : Option ServiceSpec} {f : ServiceSpec}
    (h : Advances specProgress spec (some f)) (hcontent : r.content = .service spec) :
    Advances (progress d server?) r { r with content := .service (some f) } := by
  obtain ⟨m, content⟩ := r
  cases hcontent
  obtain ⟨hle, heq⟩ := h
  have hprogress : ∀ spec, progress d server? ⟨m, .service spec⟩ =
      nameProgress d m.name + 1 + (0 + 0 + specProgress spec + 3 * 0) := fun _ => rfl
  refine ⟨by rw [hprogress, hprogress]; omega, fun hnew => ?_⟩
  rw [hprogress, hprogress] at hnew
  rw [heq (by omega)]

/-- What is kept but for init containers and triggers counts as before. -/
lemma Frame.progress_le (h : r.Frame c s) (hservers : ∀ id,
      c.policy.annotations.all.get? serverIdKey = some id → server? id = none)
    (htriggers : s.content.triggers = r.content.triggers) :
    r.progress d server? ≤ s.progress d server? := by
  have hpods : podProgress d s.podSpec? = podProgress d r.podSpec? := by
    rw [← podProgress_withInits, h.workload.podSpec, podProgress_withInits]
  have hspec : specProgress (serviceSpec? r) ≤ specProgress (serviceSpec? s) := by
    cases hr : serviceSpec? r with
    | none => exact Nat.zero_le _
    | some spec =>
      obtain ⟨spec', hspec', hports⟩ := h.service.ports spec (content_of_serviceSpec? hr)
      rw [serviceSpec?, hspec']
      exact Nat.le_of_eq (congrArg (portsProgress · + 1) hports.symm)
  have hpending : (if (r.pending? server?).isSome then 0 else 1) ≤
      (if (s.pending? server?).isSome then 0 else 1) := by
    cases hs : s.pending? server? with
    | none => split <;> decide
    | some server =>
      obtain ⟨hkind, id, hid, hserver⟩ := pending?_eq_some.mp hs
      rw [h.service.kind] at hkind
      obtain hid | hpolicy := h.server hkind id hid
      · rw [pending?_eq_some.mpr ⟨hkind, id, hid, hserver⟩]
      · rw [hservers id hpolicy] at hserver
        cases hserver
  unfold progress contentProgress
  rw [h.service.name, h.workload.replicas, hpods, htriggers]
  omega

end Resource

/-! ### Enrichers -/

namespace Enricher

variable {c : Context} {server? : String → Option Config.RegistryServer} {r s : Resource}

/-- A name comes from a setting, or it is the default name. -/
lemma Context.resourceName_cases (c : Context) (enricher : String) (key : Key) :
    Text.isBlank (c.resourceName enricher key) = false ∨
      c.resourceName enricher key = c.project.defaultResourceName := by
  unfold resourceName
  cases h : (c.text? enricher key).filter (!Text.isBlank ·) with
  | none => exact .inr rfl
  | some name => exact .inl (by simpa using (Option.filter_eq_some_iff.mp h).2)

lemma Naming.advances_nameResource {d name : String} (hname : Text.isBlank name = false ∨ name = d)
    (r : Resource) : Advances (Resource.progress d server?) r (nameResource name r) := by
  unfold nameResource
  split
  next h =>
    have hblank : (r.metadata.name.bind Text.nonBlank?).isSome = false := by
      unfold Resource.name? at h
      cases hold : r.metadata.name with
      | none => rfl
      | some old => simpa [hold, Option.filter, Text.isSome_nonBlank?] using h
    obtain ⟨hle, heq⟩ := advances_name hblank hname
    have hprogress : (r.rename (some name)).progress d server? =
      nameProgress d (some name) + (if (r.pending? server?).isSome then 0 else 1) +
        r.contentProgress d := rfl
    refine ⟨by rw [hprogress, Resource.progress]; omega, fun hnew => ?_⟩
    rw [hprogress, Resource.progress] at hnew
    rw [heq (by omega)]
    rfl
  next => exact .refl r

namespace DefaultController

lemma advances_ensureDeployment {d : String} (replicas : Int32) (r : Resource) :
    Advances (Resource.progress d server?) r (ensureDeployment replicas r) := by
  obtain ⟨m, content⟩ := r
  cases content with
  | deployment spec =>
    refine Advances.trans ?_ (Resource.advances_ensureTemplate rfl)
    cases spec with
    | none =>
      refine Resource.Reworked.advances ⟨rfl, rfl, rfl, rfl⟩ (Nat.zero_le _) fun hnew => ?_
      exact absurd hnew (Nat.not_succ_le_zero 0)
    | some s =>
      change Advances _ _
        (Resource.mk m (.deployment (some { s with
          replicas := some (s.replicas.getD replicas) })))
      cases hreplicas : s.replicas with
      | some n =>
        have hself : { s with replicas := some n } = s := by
          obtain ⟨⟩ := s
          cases hreplicas
          rfl
        rw [Option.getD_some, hself]
        exact .refl _
      | none =>
        have hnone : Resource.replicas? ⟨m, .deployment (some s)⟩ = none := hreplicas
        refine Resource.Reworked.advances ⟨rfl, rfl, rfl, rfl⟩ ?_ fun hnew => ?_
        · rw [hnone]
          exact Nat.add_le_add_right (Nat.zero_le 1) _
        · rw [hnone] at hnew
          exact absurd (Nat.le_of_add_le_add_right hnew) (Nat.not_succ_le_zero 0)
  | _ => exact .refl _

lemma advances_complete {t : PodTemplateSpec}
    (ht : ((blueprint c).podTemplate c.images).Returns t) (r : Resource) :
    Advances (Resource.progress c.project.defaultResourceName server?) r
      (complete c (t.spec.getD default) r) := by
  refine (advances_ensureDeployment _ r).trans (Resource.advances_modifyPodSpec fun pod _ => ?_)
  exact PodSpec.advances_fill (Blueprint.sound_of_podTemplate ht) (c.resourceName_cases _ _)

end DefaultController

lemma Images.advances_complete {d : String} (hc : HasPullPolicy c) (h : (complete c r).Returns s) :
    Advances (Resource.progress d server?) r s := by
  obtain ⟨_, rfl⟩ | ⟨hkind, containers, hcontainers, rfl⟩ := complete_cases h
  · exact .refl _
  · refine (Resource.advances_ensureTemplate hkind).trans (Resource.advances_modifyPodSpec ?_)
    intro pod hpod
    rw [Resource.podSpec?_ensureTemplate hkind, Option.some.injEq] at hpod
    rw [hpod] at hcontainers
    exact PodSpec.advances_withContainers
      (keepsItems_fillContainers .refl (advances_fillContainer hc) hcontainers)

lemma HealthChecks.advances_complete {d : String} {liveness readiness : Option Probe}
    (h : (complete liveness readiness r).Returns s) :
    Advances (Resource.progress d server?) r s := by
  rw [returns_complete] at h
  subst h
  split
  · exact Resource.advances_modifyPodSpec fun pod _ => advances_probeLast pod
  · exact .refl r

namespace DefaultService

lemma advances_completePort (p : ServicePort) :
    Advances ServicePort.progress p (completePort p) := by
  obtain ⟨hname, hname'⟩ := advances_fillText_some (isBlank_wellKnownPortName p.port) p.name
  obtain ⟨hprotocol, hprotocol'⟩ :=
    advances_fillText_some (show Text.isBlank "TCP" = false by decide) p.protocol
  have hprogress : (completePort p).progress =
    textProgress (fillText p.name (some (wellKnownPortName p.port))) +
      textProgress (fillText p.protocol (some "TCP")) := rfl
  refine ⟨by rw [hprogress, ServicePort.progress]; omega, fun hnew => ?_⟩
  rw [hprogress, ServicePort.progress] at hnew
  have hself : completePort p = { p with
    name := fillText p.name (some (wellKnownPortName p.port))
    protocol := fillText p.protocol (some "TCP") } := rfl
  rw [hself, hname' (by omega), hprotocol' (by omega)]

lemma advances_completeSpec {f : ServiceSpec} (hf : f.ports ≠ some []) (spec : ServiceSpec) :
    Advances portsProgress spec.ports (completeSpec spec f).ports := by
  unfold completeSpec
  split
  next p ports hports =>
    rw [hports]
    obtain ⟨hle, heq⟩ :=
      (KeepsItems.map (l := p :: ports) fun q _ => advances_completePort q).advances
    rw [List.map_cons] at hle heq ⊢
    refine ⟨Nat.add_le_add_right hle 1, fun hnew => ?_⟩
    exact congrArg some (heq (Nat.le_of_add_le_add_right hnew))
  next hports =>
    obtain hnone | hnil : spec.ports = none ∨ spec.ports = some [] := by
      cases hspec : spec.ports with
      | none => exact .inl rfl
      | some l =>
        cases l with
        | nil => exact .inr rfl
        | cons p ports => exact absurd hspec (hports p ports)
    all_goals cases hfallback : f.ports with
      | none => first | exact hnone ▸ .refl _ | exact hnil ▸ .of_lt Nat.one_pos
      | some l =>
        cases l with
        | nil => exact absurd hfallback hf
        | cons p ports =>
          refine .of_lt ?_
          simp only [*, portsProgress, totalProgress_cons]
          omega

lemma advances_spec {f : ServiceSpec} (hf : f.ports ≠ some []) (spec : Option ServiceSpec) :
    Advances specProgress spec (some ((spec.map (completeSpec · f)).getD f)) := by
  cases spec with
  | none => exact .of_lt (Nat.succ_pos _)
  | some spec =>
    obtain ⟨hle, heq⟩ := advances_completeSpec hf spec
    refine ⟨Nat.succ_le_succ hle, fun hnew => ?_⟩
    change some (completeSpec spec f) = some spec
    rw [completeSpec_eq, heq (Nat.le_of_succ_le_succ hnew)]

lemma advances_complete {declared : Config.ServiceDeclaration} (r : Resource) :
    Advances (Resource.progress c.project.defaultResourceName server?) r
      (complete c (declared.service?.bind serviceSpec?) r) := by
  obtain ⟨m, content⟩ := r
  cases content with
  | service spec =>
    have hnamed : Advances (Resource.progress c.project.defaultResourceName server?) _ _ :=
      Naming.advances_nameResource (c.resourceName_cases DefaultService.name nameKey)
        ⟨m, .service spec⟩
    cases hfallback : declared.service?.bind serviceSpec? with
    | none => exact hnamed
    | some f =>
      rw [complete_service]
      dsimp only
      split
      · exact hnamed.trans (Resource.advances_service
          (advances_spec (ports_ne_of_service? hfallback) spec) (Naming.content_nameResource _ _))
      · exact hnamed
  | _ => exact .refl _

end DefaultService

lemma RegistrySecrets.advances_complete {d : String} (h : (complete c r).Returns s) :
    Advances (Resource.progress d c.project.server?) r s := by
  obtain ⟨rfl, _⟩ | ⟨hr, hs, hid, hname⟩ := complete_cases h
  · exact .refl _
  · have hnone : s.pending? c.project.server? = none := by
      rw [Resource.pending?, if_pos hs, hid]
      rfl
    have hprogress : s.progress d c.project.server? = nameProgress d r.metadata.name + 1 := by
      rw [Resource.progress, Resource.contentProgress_of_secret hs, hname, hnone]
      rfl
    refine ⟨?_, fun hnew => ?_⟩
    · rw [hprogress, Resource.progress, Resource.contentProgress_of_secret hr]
      split <;> omega
    · rw [hprogress, Resource.progress, Resource.contentProgress_of_secret hr] at hnew
      split at hnew
      · omega
      next hpending =>
        refine h.unique (Completed.returns_self fun _ id hid => ?_)
        rw [Resource.pending?, if_pos hr, hid] at hpending
        simpa using hpending

namespace ImageTriggers

lemma progress_le_trim {d : String} (container : Container) :
    container.progress d ≤ (trim c container).progress d + 2 := by
  have htext : textProgress container.image ≤ 2 := by
    unfold textProgress
    split
    · decide
    · split <;> decide
  unfold trim
  split
  next =>
    unfold Container.progress
    dsimp only
    omega
  next => omega

lemma totalProgress_addTriggers {d : String} (triggers : List DeploymentTrigger)
    (containers : List Container) :
    totalProgress (Container.progress d) containers + 3 * triggers.length ≤
      totalProgress (Container.progress d) (addTriggers c triggers containers).1 +
        3 * (addTriggers c triggers containers).2.length := by
  induction containers generalizing triggers with
  | nil => exact Nat.le_refl _
  | cons container rest ih =>
    rw [addTriggers]
    split
    next =>
      have hrest := ih triggers
      simp only [totalProgress_cons]
      omega
    next t _ =>
      have hrest := ih (triggers ++ [t])
      have htrim := progress_le_trim (c := c) (d := d) container
      rw [List.length_append, List.length_singleton] at hrest
      simp only [totalProgress_cons]
      omega

/-- Where an image is blanked, a trigger is added. -/
lemma progress_le_adaptResource {d : String} (r : Resource) :
    r.progress d server? ≤ (adaptResource c r).progress d server? := by
  obtain hself | ⟨pod, hpod, hnew, htriggers⟩ := adaptResource_cases (c := c) r
  · rw [hself]
  · obtain ⟨hmeta, hkind, hreplicas, hservice⟩ := adaptResource_keeps (c := c) r
    have htotal := totalProgress_addTriggers (c := c) (d := d) (r.content.triggers.getD [])
      pod.containers
    have hpending : (adaptResource c r).pending? server? = r.pending? server? := by
      rw [Resource.pending?, Resource.pending?, hkind, serverId?, serverId?, hmeta]
    have hspec : serviceSpec? (adaptResource c r) = serviceSpec? r := by
      by_cases hr : r.kind = .service
      · rw [hservice hr]
      · rw [Resource.serviceSpec?_of_kind hr, Resource.serviceSpec?_of_kind (hkind ▸ hr)]
    unfold Resource.progress Resource.contentProgress
    rw [hmeta, hpending, hreplicas, hspec, hpod, hnew, htriggers]
    unfold podProgress PodSpec.progress PodSpec.withContainers
    dsimp only
    omega

end ImageTriggers

end Enricher

/-! ### Steps -/

namespace StandardEnricher

variable {c : Enricher.Context} {platform : Config.Platform} {e : StandardEnricher}
  {server? : String → Option Config.RegistryServer} {r s : Resource} {before after : Collection}

lemma advances_of_completes (hpolicy : e = images → Enricher.Images.HasPullPolicy c)
    (hservers : e = registrySecrets → server? = c.project.server?) (h : e.Completes c r s) :
    Advances (Resource.progress c.project.defaultResourceName server?) r s := by
  cases e with
  | naming => exact h ▸ Enricher.Naming.advances_nameResource (c.resourceName_cases _ _) r
  | defaultController =>
    obtain rfl | ⟨t, ht, rfl⟩ := h
    · exact .refl _
    · exact Enricher.DefaultController.advances_complete ht r
  | defaultService =>
    obtain rfl | ⟨d, _, rfl⟩ := h
    · exact .refl _
    · exact Enricher.DefaultService.advances_complete r
  | images =>
    obtain rfl | ⟨_, h⟩ := h
    · exact .refl _
    · exact Enricher.Images.advances_complete (hpolicy rfl) h
  | healthChecks =>
    obtain rfl | ⟨_, _, h⟩ := h
    · exact .refl _
    · exact Enricher.HealthChecks.advances_complete h
  | registrySecrets =>
    rw [hservers rfl]
    exact Enricher.RegistrySecrets.advances_complete h
  | projectLabels | podAnnotations | volumePermissions | imageTriggers =>
    cases h
    exact .refl _

/-- Adding makes progress or adds nothing. -/
lemma advances_addMissing (hpolicy : e = images → Enricher.Images.HasPullPolicy c)
    (hservers : e = registrySecrets → server? = c.project.server?)
    (h : ((e.enricher c).addMissing platform before).Returns after) :
    Advances (totalProgress (Resource.progress c.project.defaultResourceName server?)) before
      after := by
  obtain ⟨kept, extra, rfl, hkept, _⟩ := addMissing_cases h
  refine KeepsItems.advances (KeepsItems.append (.of_forall₂ (hkept.imp ?_)) extra)
  exact fun _ _ => advances_of_completes hpolicy hservers

/-- Adapting loses no progress, as long as it does not annotate secrets. -/
lemma progress_le_adapt {d : String} (hservers : ∀ id,
      c.policy.annotations.all.get? serverIdKey = some id → server? id = none)
    (h : ((e.enricher c).adapt platform before).Returns after) :
    totalProgress (Resource.progress d server?) before ≤
      totalProgress (Resource.progress d server?) after := by
  refine totalProgress_le ((returns_adapt.mp h).imp fun r s hrs => ?_)
  by_cases he : e = imageTriggers
  · subst he
    cases Logged.returns_pure.mp hrs
    split
    · exact Enricher.ImageTriggers.progress_le_adaptResource r
    · exact Nat.le_refl _
  · exact (frame_of_returns (fun htriggers => absurd htriggers he) hrs).progress_le hservers
      (triggers_of_returns he hrs)

end StandardEnricher

/-- Labelling loses no progress either. -/
lemma Labelling.progress_le_label {c : Enricher.Context}
    {server? : String → Option Config.RegistryServer} {d : String} (hservers : ∀ id,
      c.policy.annotations.all.get? serverIdKey = some id → server? id = none)
    (steps : List StandardEnricher) (before : Collection) :
    totalProgress (Resource.progress d server?) before ≤
      totalProgress (Resource.progress d server?)
        (before.map (labelResource c.policy (steps.map (·.enricher c)))) := by
  refine totalProgress_le (List.forall₂_map_right_iff.mpr (List.forall₂_same.mpr fun r _ => ?_))
  exact (frame_labelResource steps r).progress_le hservers (triggers_labelResource _ _ r)

end Manifests
