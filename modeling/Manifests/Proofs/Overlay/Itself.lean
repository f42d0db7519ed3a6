import Mathlib.Data.List.Pairwise
import Manifests.Proofs.Overlay.Controllers
import Manifests.Proofs.Overlay.Repetition

/-!
A manifest as its own override.  Every item finds itself by its key and is put back in its place, as
long as keys are not shared and nothing that stands in the manifest means removal.
-/
namespace Manifests

namespace KeyedList

variable {α : Type} {same : α → α → Bool} {items : List α}

/-- Items of which no two are the same. -/
structure Apart (same : α → α → Bool) (items : List α) : Prop where
  refl : ∀ a, same a a = true
  symm : ∀ a b, same a b = same b a
  pairwise : items.Pairwise fun a b => same a b = false

lemma Apart.of_nodup {κ : Type} [DecidableEq κ] {key : α → κ} (h : (items.map key).Nodup) :
    Apart (fun a b => key b == key a) items where
  refl _ := beq_self_eq_true _
  symm _ _ := BEq.comm
  pairwise := by
    refine (List.pairwise_map.mp h).imp fun hne => ?_
    exact beq_false_of_ne (Ne.symm hne)

lemma Apart.reverse (h : Apart same items) : Apart same items.reverse where
  refl := h.refl
  symm := h.symm
  pairwise := by
    rw [List.pairwise_reverse]
    exact h.pairwise.imp fun hab => (h.symm _ _).trans hab

lemma Apart.eq_of_same (h : Apart same items) {a b : α} (ha : a ∈ items) (hb : b ∈ items)
    (hab : same a b = true) : a = b := by
  by_contra hne
  have : Std.Symm fun a b => same a b = false := ⟨fun a b hab => (h.symm b a).trans hab⟩
  have hapart := h.pairwise.forall ha hb hne
  rw [hab] at hapart
  cases hapart

/-- Every item finds itself. -/
lemma Apart.find?_eq_self (h : Apart same items) {a : α} (ha : a ∈ items) :
    items.find? (same a) = some a := by
  obtain ⟨x, hx⟩ : ∃ x, items.find? (same a) = some x := by
    rw [← Option.isSome_iff_exists, List.find?_isSome]
    exact ⟨a, ha, h.refl a⟩
  rw [hx, h.eq_of_same ha (List.mem_of_find?_eq_some hx) (List.find?_some hx)]

lemma Apart.settled (h : Apart same items) : Settled same items items := by
  intro a ha
  rw [h.find?_eq_self ha, h.reverse.find?_eq_self (List.mem_reverse.mpr ha)]

lemma Apart.tellsApart (h : Apart same items) : TellsApart same items where
  refl a _ := h.refl a
  symm a _ b _ hab := (h.symm b a).trans hab
  trans _ ha _ hb _ _ hab hbc := h.eq_of_same ha hb hab ▸ hbc

lemma Apart.putAll_self (h : Apart same items) : putAll same items items = items :=
  putAll_eq_self h.tellsApart h.settled

lemma Apart.merge?_self {l : Option (List α)} (h : Apart same (l.getD [])) :
    merge? (putAll same) l l = l := (merge?_self_iff rfl).mpr h.putAll_self

end KeyedList

/-! ### Maps -/

namespace Overlay

variable {α : Type} {isEmpty : α → Bool}

/-- Entries none of which removes change nothing where they stand. -/
lemma entries_self {m : Option (SortedMap α)} (h : ∀ e ∈ (m.getD ∅).toList, isEmpty e.2 = false) :
    entries isEmpty m m = m := by
  rw [entries_eq_self_iff]
  intro k v hk
  rw [hk, h (k, v) (SortedMap.get?_eq_some_iff.mp hk)]
  rfl

end Overlay

/-- Every entry of the map sets something. -/
def MapSite.Sets {α : Type} (site : MapSite α) (r : Resource) : Prop :=
  ∀ e ∈ ((site.get? r).getD ∅).toList, site.isEmpty e.2 = false

instance {α : Type} (site : MapSite α) (r : Resource) : Decidable (site.Sets r) :=
  inferInstanceAs (Decidable (∀ e ∈ ((site.get? r).getD ∅).toList, site.isEmpty e.2 = false))

lemma MapSite.Sets.entries_self {α : Type} {site : MapSite α} {r : Resource} (h : site.Sets r) :
    Overlay.entries site.isEmpty (site.get? r) (site.get? r) = site.get? r :=
  Overlay.entries_self h

lemma overlayPart_self {α : Type} [Inhabited α] {f : α → α → α} {a : Option α}
    (h : ∀ x, a = some x → f x x = x) : overlayPart f a a = a := by
  cases a with
  | none => rfl
  | some x => exact congrArg some (h x rfl)

lemma ObjectMeta.overlay_self {m : ObjectMeta}
    (hlabels : Overlay.texts m.labels m.labels = m.labels)
    (hannotations : Overlay.texts m.annotations m.annotations = m.annotations) :
    m.overlay m = m := by
  simp only [overlay, hlabels, hannotations, Option.orElse_eq_orElse, Option.orElse_eq_or,
    Option.or_self]

lemma LabelSelector.overlay_self {s : LabelSelector}
    (h : Overlay.texts s.matchLabels s.matchLabels = s.matchLabels) : s.overlay s = s := by
  simp only [overlay, h, Option.orElse_eq_orElse, Option.orElse_eq_or, Option.or_self]

/-! ### Pods -/

/-- A container whose variables have values, and whose variables, ports and mounts have keys of
their own. -/
structure Container.IsKeyed (c : Container) : Prop where
  sets : ∀ v ∈ c.vars, v.isEmpty = false
  vars : (c.vars.map (·.name)).Nodup
  ports : ((c.ports.getD []).map (·.containerPort)).Nodup
  mounts : ((c.volumeMounts.getD []).map (·.mountPath)).Nodup

/-- Containers and volumes that are told apart by their names. -/
structure PodSpec.IsKeyed (s : PodSpec) : Prop where
  named : ∀ c ∈ s.containers, c.name ≠ ""
  names : (s.containers.map (·.name)).Nodup
  containers : ∀ c ∈ s.containers, c.IsKeyed
  volumes : ((s.volumes.getD []).map (·.name)).Nodup

lemma Container.IsKeyed.removesForGood {c : Container} (h : c.IsKeyed) : RemovesForGood c.vars := by
  refine List.pairwise_iff_forall_sublist.mpr fun {v w} hvw hempty => ?_
  rw [h.sets v (hvw.subset List.mem_cons_self)] at hempty
  cases hempty

lemma Container.IsKeyed.isSettled {c : Container} (h : c.IsKeyed) : c.IsSettled where
  sets := h.sets
  vars := (KeyedList.Apart.of_nodup h.vars).settled
  ports := (KeyedList.Apart.of_nodup h.ports).settled
  mounts := (KeyedList.Apart.of_nodup h.mounts).settled

namespace PodSpec.IsKeyed

variable {s : PodSpec}

lemma orderly (h : s.IsKeyed) : Orderly [] s.containers where
  unnamed := by simp
  named := h.named
  distinct := List.pairwise_map.mp h.names
  removesUnnamed := by simp
  removesNamed c hc := (h.containers c hc).removesForGood
  removesBoth := by simp

/-- Every container lies over itself. -/
lemma overlayContainers_self (h : s.IsKeyed) :
    overlayContainers 0 s.containers s.containers = s.containers := by
  have hlaid := layAll_self h.orderly
  rw [← overlayContainers_eq_layAll h.orderly, List.nil_append] at hlaid
  rw [hlaid]
  refine (List.map_congr_left fun c hc => ?_).trans (List.map_id _)
  exact (Container.overlay_self_iff (h.containers c hc).removesForGood).mpr
    (h.containers c hc).isSettled

lemma overlay_self (h : s.IsKeyed)
    (hselector : Overlay.texts s.nodeSelector s.nodeSelector = s.nodeSelector) :
    s.overlay s = s := by
  have hvolumes : KeyedList.merge? (KeyedList.putAll fun v w => w.name == v.name)
      s.volumes s.volumes = s.volumes := (KeyedList.Apart.of_nodup h.volumes).merge?_self
  simp only [overlay, h.overlayContainers_self, hvolumes, hselector, Option.orElse_eq_orElse,
    Option.orElse_eq_or, Option.or_self]

end PodSpec.IsKeyed

/-! ### Contents -/

section Specifications

lemma ServiceSpec.overlay_self {s : ServiceSpec}
    (hselector : Overlay.texts s.selector s.selector = s.selector)
    (hports : KeyedList.Apart ServicePort.isSame (s.ports.getD [])) : s.overlay s = s := by
  simp only [overlay, hselector, hports.merge?_self, Option.orElse_eq_orElse, Option.orElse_eq_or,
    Option.or_self]

lemma ReplicaSetSpec.overlay_self {s : ReplicaSetSpec}
    (hselector : s.selector.overlay s.selector = s.selector)
    (htemplate : overlayPart PodTemplateSpec.overlay s.template s.template = s.template) :
    s.overlay s = s := by
  simp only [overlay, hselector, htemplate, Option.orElse_eq_orElse, Option.orElse_eq_or,
    Option.or_self]

lemma ReplicationControllerSpec.overlay_self {s : ReplicationControllerSpec}
    (hselector : Overlay.texts s.selector s.selector = s.selector)
    (htemplate : overlayPart PodTemplateSpec.overlay s.template s.template = s.template) :
    s.overlay s = s := by
  simp only [overlay, hselector, htemplate, Option.orElse_eq_orElse, Option.orElse_eq_or,
    Option.or_self]

lemma DeploymentConfigSpec.overlay_self {s : DeploymentConfigSpec}
    (hselector : Overlay.texts s.selector s.selector = s.selector)
    (htemplate : overlayPart PodTemplateSpec.overlay s.template s.template = s.template) :
    s.overlay s = s := by
  simp only [overlay, hselector, htemplate, Option.orElse_eq_orElse, Option.orElse_eq_or,
    Option.or_self]

lemma DeploymentSpec.overlay_self {s : DeploymentSpec}
    (hselector : s.selector.overlay s.selector = s.selector)
    (htemplate : s.template.overlay s.template = s.template) : s.overlay s = s := by
  simp only [overlay, hselector, htemplate, Option.orElse_eq_orElse, Option.orElse_eq_or,
    Option.or_self]

lemma StatefulSetSpec.overlay_self {s : StatefulSetSpec}
    (hselector : s.selector.overlay s.selector = s.selector)
    (htemplate : s.template.overlay s.template = s.template) : s.overlay s = s := by
  simp only [overlay, hselector, htemplate, Option.orElse_eq_orElse, Option.orElse_eq_or,
    Option.or_self, ite_self]

lemma DaemonSetSpec.overlay_self {s : DaemonSetSpec}
    (hselector : s.selector.overlay s.selector = s.selector)
    (htemplate : s.template.overlay s.template = s.template) : s.overlay s = s := by
  simp only [overlay, hselector, htemplate]

/-- The labels that a job selects by are left alone. -/
lemma JobSpec.overlay_self {s : JobSpec}
    (htemplate : s.template.overlay s.template = s.template) : s.overlay s = s := by
  simp only [overlay, htemplate, Option.orElse_eq_orElse, Option.orElse_eq_or, Option.or_self]

end Specifications

/-! ### Resources -/

/-- A resource that removes nothing and whose items have keys of their own.  Ports of a service are
told apart by the rule of the override. -/
structure Resource.IsKeyed (r : Resource) : Prop where
  sets : ∀ {α : Type} (site : MapSite α), site.Sets r
  pods : ∀ s, r.podSpec? = some s → s.IsKeyed
  ports : r.content.ports.Pairwise fun p q => p.isSame q = false

namespace Resource.IsKeyed

variable {r : Resource}

lemma metadata_overlay_self (h : r.IsKeyed) : r.metadata.overlay r.metadata = r.metadata :=
  ObjectMeta.overlay_self (h.sets .labels).entries_self (h.sets .annotations).entries_self

lemma template_overlay_self (h : r.IsKeyed) {t : PodTemplateSpec} (ht : r.template? = some t) :
    t.overlay t = t := by
  have hmetadata : overlayPart ObjectMeta.overlay t.metadata t.metadata = t.metadata := by
    refine overlayPart_self fun m hm => ObjectMeta.overlay_self ?_ ?_
    · have hlabels := (h.sets .podLabels).entries_self
      simp only [MapSite.get?, ht, Option.bind_some, hm] at hlabels
      exact hlabels
    · have hannotations := (h.sets .podAnnotations).entries_self
      simp only [MapSite.get?, ht, Option.bind_some, hm] at hannotations
      exact hannotations
  have hspec : overlayPart PodSpec.overlay t.spec t.spec = t.spec := by
    refine overlayPart_self fun s hs => ?_
    have hselector := (h.sets .nodeSelector).entries_self
    simp only [MapSite.get?, ht, Option.bind_some, hs] at hselector
    refine (h.pods s ?_).overlay_self hselector
    rw [Resource.podSpec?, ht]
    exact hs
  rw [PodTemplateSpec.overlay, hmetadata, hspec]

lemma content_overlay_self (h : r.IsKeyed) : r.content.overlay r.content = r.content := by
  obtain ⟨m, content⟩ := r
  have hselector := (h.sets .selector).entries_self
  have htemplate := @template_overlay_self _ h
  have hpart : ∀ {t}, content.template? = t → overlayPart PodTemplateSpec.overlay t t = t := by
    rintro _ rfl
    exact overlayPart_self fun _ => htemplate
  cases content with
  | service spec =>
    refine congrArg Content.service (overlayPart_self fun s hs => ?_)
    subst hs
    exact ServiceSpec.overlay_self hselector
      ⟨ServicePort.isSame_self, ServicePort.isSame_comm, h.ports⟩
  | replicaSet spec =>
    refine congrArg Content.replicaSet (overlayPart_self fun s hs => ?_)
    subst hs
    exact ReplicaSetSpec.overlay_self (LabelSelector.overlay_self hselector) (hpart rfl)
  | replicationController spec =>
    refine congrArg Content.replicationController (overlayPart_self fun s hs => ?_)
    subst hs
    exact ReplicationControllerSpec.overlay_self hselector (hpart rfl)
  | deploymentConfig version spec =>
    refine congrArg (Content.deploymentConfig version) (overlayPart_self fun s hs => ?_)
    subst hs
    exact DeploymentConfigSpec.overlay_self hselector (hpart rfl)
  | deployment spec =>
    refine congrArg Content.deployment (overlayPart_self fun s hs => ?_)
    subst hs
    exact DeploymentSpec.overlay_self (LabelSelector.overlay_self hselector) (htemplate rfl)
  | statefulSet spec =>
    refine congrArg Content.statefulSet (overlayPart_self fun s hs => ?_)
    subst hs
    exact StatefulSetSpec.overlay_self (LabelSelector.overlay_self hselector) (htemplate rfl)
  | daemonSet spec =>
    refine congrArg Content.daemonSet (overlayPart_self fun s hs => ?_)
    subst hs
    exact DaemonSetSpec.overlay_self (LabelSelector.overlay_self hselector) (htemplate rfl)
  | job spec =>
    refine congrArg Content.job (overlayPart_self fun s hs => ?_)
    subst hs
    exact JobSpec.overlay_self (htemplate rfl)
  | podTemplate template => exact congrArg Content.podTemplate (hpart rfl)
  | secret s =>
    have hdata : Overlay.entries (·.toList.isEmpty) s.data s.data = s.data :=
      (h.sets .secretData).entries_self
    have htexts : Overlay.texts s.stringData s.stringData = s.stringData :=
      (h.sets .secretTexts).entries_self
    refine congrArg Content.secret ?_
    simp only [SecretContent.overlay, hdata, htexts, Option.orElse_eq_orElse, Option.orElse_eq_or,
      Option.or_self]
  | configMap s =>
    have hdata : Overlay.texts s.data s.data = s.data := (h.sets .configData).entries_self
    refine congrArg Content.configMap ?_
    simp only [ConfigMapContent.overlay, hdata]

end Resource.IsKeyed

namespace Resource

/-- A keyed resource stays as it is under itself, with all lists in their order. -/
theorem overlay_itself {r : Resource} (h : r.IsKeyed) : r.overlay r = .ok r := by
  rw [overlay_eq_ok rfl, h.metadata_overlay_self, h.content_overlay_self]

/-- A deployment of two containers, one of which has variables, ports and mounts. -/
def serving : Resource where
  metadata := { (default : ObjectMeta) with
    name := some "web", labels := some (SortedMap.ofList [("app", "web"), ("tier", "front")]) }
  content := .deployment (some { (default : DeploymentSpec) with
    selector := labelsSelected "web"
    template := {
      metadata := some { (default : ObjectMeta) with
        labels := some (SortedMap.ofList [("app", "web")]) }
      spec := some { (default : PodSpec) with
        containers := [
          { (default : Container) with
            name := "server"
            env := some [{ (default : EnvVar) with name := "LEVEL", value := some "info" },
              { (default : EnvVar) with name := "ZONE", value := some "a" }]
            ports := some [{ (default : ContainerPort) with containerPort := 8080 },
              { (default : ContainerPort) with containerPort := 9090 }]
            volumeMounts := some [
              { (default : VolumeMount) with name := "data", mountPath := "/data" },
              { (default : VolumeMount) with name := "data", mountPath := "/cache" }] },
          { (default : Container) with name := "proxy" }]
        volumes := some [{ (default : Volume) with name := "data" },
          { (default : Volume) with name := "tmp" }] } } })

theorem overlay_itself_serving :
    serving.IsKeyed ∧ serving.overlay serving = .ok serving := by
  have hkeyed : serving.IsKeyed := by
    refine ⟨fun site => by cases site <;> decide, fun s hs => ?_, .nil⟩
    cases hs
    refine ⟨by decide, by decide, fun c hc => ?_, by decide⟩
    obtain rfl | hc := List.mem_cons.mp hc
    · exact ⟨by decide, by decide, by decide, by decide⟩
    · cases List.mem_singleton.mp hc
      exact ⟨by decide, by decide, by decide, by decide⟩
  exact ⟨hkeyed, overlay_itself hkeyed⟩

end Resource
end Manifests
