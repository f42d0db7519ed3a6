import Manifests.Proofs.Ports.Numbers

/-! Which port numbers are in use where controllers and services are added to nothing: those that
the specs of the images bind, up to the standard port, which is published for its alternatives. -/
namespace Manifests

/-! ### What specs bind -/

namespace Enricher.Context

variable {c : Context} {platform : Config.Platform} {n : Int32}

/-- Some spec of an image is the mapping. -/
def Reads (c : Context) (m : PortMapping) : Prop :=
  ∃ image ∈ c.images, ∃ spec ∈ image.ports, PortMapping.parse c.project.properties spec = .ok m

/-- A container port, a host port of the controller that is added, or the standard port that stands
for one of its alternatives. -/
inductive Emits (c : Context) (platform : Config.Platform) : Int32 → Prop
  | container {m : PortMapping} (read : c.Reads m) : Emits c platform m.containerPort
  | host {m : PortMapping} {port : Int32} (read : c.Reads m) (bound : m.hostPort = some port)
      (controller : (DefaultController.addedKind? c platform).isSome = true) :
      Emits c platform port
  | standard {m : PortMapping} (read : c.Reads m)
      (alternative : m.containerPort = 8080 ∨ m.containerPort = 9090) :
      Emits c platform DefaultService.httpPort

lemma emits_iff : c.Emits platform n ↔
    ((DefaultController.addedKind? c platform).isSome = true ∧ ∃ m, c.Reads m ∧ m.Uses n) ∨
      (∃ m, c.Reads m ∧ m.containerPort = n) ∨
        n = DefaultService.httpPort ∧
          ∃ m, c.Reads m ∧ (m.containerPort = 8080 ∨ m.containerPort = 9090) := by
  constructor
  · rintro (⟨read⟩ | ⟨read, bound, controller⟩ | ⟨read, alternative⟩)
    · exact .inr (.inl ⟨_, read, rfl⟩)
    · exact .inl ⟨controller, _, read, .inr bound⟩
    · exact .inr (.inr ⟨rfl, _, read, alternative⟩)
  · rintro (⟨controller, m, read, rfl | bound⟩ | ⟨m, read, rfl⟩ | ⟨rfl, m, read, alternative⟩)
    · exact .container read
    · exact .host read bound controller
    · exact .container read
    · exact .standard read alternative

end Enricher.Context

/-! ### What controllers use -/

namespace Blueprint

variable {b : Blueprint} {n : Int32}

lemma uses_container {image : Config.Image} {x : Container} (h : (b.container image).Returns x) :
    x.Uses n ↔ ∃ spec ∈ image.ports, ∃ m,
      PortMapping.parse b.project.properties spec = .ok m ∧ m.Uses n := by
  simp only [container, Logged.returns_bind, Logged.returns_ofExcept, Logged.returns_pure] at h
  obtain ⟨_, hports, env, _, rfl⟩ := h
  obtain ⟨mappings, hmappings, hports⟩ := Except.bind_eq_ok.mp hports
  cases hports
  unfold Container.Uses
  dsimp only
  rw [getD_nonEmpty?]
  simp only [List.mem_map, exists_exists_and_eq_and]
  refine (exists_mem_iff_of_forall₂ (Except.mapM_eq_ok_iff.mp hmappings) fun {spec m} hm => ?_).symm
  constructor
  · rintro ⟨m', hm', huses⟩
    cases hm.symm.trans hm'
    exact huses
  · exact fun huses => ⟨m, hm, huses⟩

lemma uses_podTemplate {images : List Config.Image} {t : PodTemplateSpec}
    (h : (b.podTemplate images).Returns t) : (t.spec.getD default).Uses n ↔
      ∃ image ∈ images, ∃ spec ∈ image.ports, ∃ m,
        PortMapping.parse b.project.properties spec = .ok m ∧ m.Uses n := by
  simp only [podTemplate, Logged.returns_bind, Logged.returns_pure] at h
  obtain ⟨volumes, _, made, hmade, attached, hattached, rfl⟩ := h
  have hcontainers : (∃ x ∈ made, x.Uses n) ↔ ∃ x ∈ attached, x.Uses n := by
    refine exists_mem_iff_of_forall₂ (Logged.returns_mapM.mp hattached) fun hx => ?_
    obtain ⟨_, rfl⟩ := exists_mounts_of_attach hx
    rfl
  have himages := exists_mem_iff_of_forall₂ (Logged.returns_mapM.mp hmade) fun hx =>
    (uses_container (n := n) hx).symm
  rw [himages, hcontainers]
  exact or_iff_left fun ⟨x, hx, _⟩ => List.not_mem_nil hx

end Blueprint

lemma PodSpec.uses_of_appends {c : Enricher.Context} {s : PodSpec} {n : Int32}
    (h : PodSpec.Appends c s) : s.Uses n ↔ ∃ m, c.Reads m ∧ m.Uses n := by
  have hmade : ∀ {t : PodTemplateSpec},
      ((Enricher.DefaultController.blueprint c).podTemplate c.images).Returns t →
      ((t.spec.getD default).Uses n ↔ ∃ m, c.Reads m ∧ m.Uses n) := by
    intro t ht
    rw [Blueprint.uses_podTemplate ht]
    constructor
    · rintro ⟨image, himage, spec, hspec, m, hm, huses⟩
      exact ⟨m, ⟨image, himage, spec, hspec, hm⟩, huses⟩
    · rintro ⟨m, ⟨image, himage, spec, hspec, hm⟩, huses⟩
      exact ⟨image, himage, spec, hspec, m, hm, huses⟩
  cases h with
  | controller template => exact hmade template
  | job template => exact hmade template

namespace Enricher

variable {c : Context} {n : Int32}

lemma DefaultController.uses_controller {kind : Kind} {r : Resource}
    (hkind : kind.isController = true)
    (h : ((blueprint c).controller? kind c.images).Returns (some r)) :
    r.Uses n ↔ ∃ m, c.Reads m ∧ m.Uses n := by
  obtain ⟨_, hr, _⟩ := returns_controller? h
  have hports : r.servicePorts = [] := by
    refine Resource.servicePorts_of_kind fun hservice => ?_
    rw [← hr, hservice] at hkind
    cases hkind
  rw [Resource.Uses, hports, PodSpec.uses_of_appends (pod_controller h)]
  exact or_iff_left fun ⟨p, hp, _⟩ => List.not_mem_nil hp

/-! ### What services use -/

namespace DefaultService

variable {d : Config.ServiceDeclaration} {exposed : List Int32}

lemma uses_declarePorts (exposed : List Int32) (used : List String) (ports : List Int32) :
    (∃ p ∈ declarePorts exposed used ports, p.toServicePort.Uses n) ↔
      ∃ port ∈ ports, port = n ∨ publishedPort exposed port = n := by
  induction ports generalizing used with
  | nil => simp [declarePorts]
  | cons port rest ih =>
    rw [declarePorts, List.exists_mem_cons_iff, List.exists_mem_cons_iff, ih]
    refine or_congr_left ?_
    simp [ServicePort.Uses, Config.PortDeclaration.toServicePort, or_comm]

/-- The standard port is in use wherever one of its alternatives is exposed. -/
lemma exists_publishedPort_iff :
    (∃ port ∈ exposed, port = n ∨ publishedPort exposed port = n) ↔
      n ∈ exposed ∨ n = httpPort ∧ (8080 ∈ exposed ∨ 9090 ∈ exposed) := by
  unfold publishedPort
  constructor
  · rintro ⟨port, hport, rfl | hpublished⟩
    · exact .inl hport
    · split at hpublished
      next halternative =>
        obtain ⟨_, rfl | rfl⟩ : _ ∧ (port = 8080 ∨ port = 9090) := by simpa using halternative
        · exact .inr ⟨hpublished.symm, .inl hport⟩
        · exact .inr ⟨hpublished.symm, .inr hport⟩
      next => exact .inl (hpublished ▸ hport)
  · rintro (hport | ⟨rfl, halternative⟩)
    · exact ⟨n, hport, .inl rfl⟩
    · by_cases hstandard : httpPort ∈ exposed
      · exact ⟨httpPort, hstandard, .inl rfl⟩
      · obtain hport | hport := halternative
        · exact ⟨8080, hport, .inr (if_pos (by simp [hstandard]))⟩
        · exact ⟨9090, hport, .inr (if_pos (by simp [hstandard]))⟩

lemma portsRead_of_declaration (h : declaration c = .ok d) : c.PortsRead := by
  intro image himage spec hspec
  obtain ⟨_, hlists, _⟩ := Except.bind_eq_ok.mp h
  obtain ⟨_, _, hports⟩ := Except.exists_mem_of_mapM hlists himage
  obtain ⟨_, hmappings, _⟩ := Except.bind_eq_ok.mp hports
  obtain ⟨m, _, hm⟩ := Except.exists_mem_of_mapM hmappings hspec
  exact ⟨m, hm⟩

lemma exists_exposedPorts_iff (hread : c.PortsRead) :
    (∃ image ∈ c.images, n ∈ exposedPorts c image) ↔ ∃ m, c.Reads m ∧ m.containerPort = n := by
  constructor
  · rintro ⟨image, himage, hport⟩
    obtain ⟨_, spec, hspec, m, hm, hn, _⟩ := (mem_exposedPorts hread himage).mp hport
    exact ⟨m, ⟨image, himage, spec, hspec, hm⟩, hn⟩
  · rintro ⟨m, ⟨image, himage, spec, hspec, hm⟩, hn⟩
    exact ⟨image, himage, (mem_exposedPorts hread himage).mpr ⟨_, spec, hspec, m, hm, hn, rfl⟩⟩

/-- Services publish what is exposed and lead to it. -/
lemma uses_declaredPorts (hread : c.PortsRead) :
    (∃ p ∈ c.images.flatMap (declaredPorts c), p.toServicePort.Uses n) ↔
      (∃ m, c.Reads m ∧ m.containerPort = n) ∨
        n = httpPort ∧ ∃ m, c.Reads m ∧ (m.containerPort = 8080 ∨ m.containerPort = 9090) := by
  have hdeclared : ∀ image, (∃ p ∈ declaredPorts c image, p.toServicePort.Uses n) ↔ _ :=
    fun image => (uses_declarePorts _ _ _).trans exists_publishedPort_iff
  constructor
  · rintro ⟨p, hp, huses⟩
    obtain ⟨image, himage, hp⟩ := List.mem_flatMap.mp hp
    obtain hport | ⟨rfl, hport | hport⟩ := (hdeclared image).mp ⟨p, hp, huses⟩
    · exact .inl ((exists_exposedPorts_iff hread).mp ⟨image, himage, hport⟩)
    · obtain ⟨m, hm, h8080⟩ := (exists_exposedPorts_iff hread).mp ⟨image, himage, hport⟩
      exact .inr ⟨rfl, m, hm, .inl h8080⟩
    · obtain ⟨m, hm, h9090⟩ := (exists_exposedPorts_iff hread).mp ⟨image, himage, hport⟩
      exact .inr ⟨rfl, m, hm, .inr h9090⟩
  · have hpublished : ∀ image ∈ c.images, (∃ p ∈ declaredPorts c image, p.toServicePort.Uses n) →
        ∃ p ∈ c.images.flatMap (declaredPorts c), p.toServicePort.Uses n := by
      rintro image himage ⟨p, hp, huses⟩
      exact ⟨p, List.mem_flatMap.mpr ⟨image, himage, hp⟩, huses⟩
    rintro (hexposed | ⟨rfl, m, hm, hport | hport⟩)
    · obtain ⟨image, himage, hport⟩ := (exists_exposedPorts_iff hread).mpr hexposed
      exact hpublished image himage ((hdeclared image).mpr (.inl hport))
    · obtain ⟨image, himage, hport⟩ := (exists_exposedPorts_iff hread).mpr ⟨m, hm, hport⟩
      exact hpublished image himage ((hdeclared image).mpr (.inr ⟨rfl, .inl hport⟩))
    · obtain ⟨image, himage, hport⟩ := (exists_exposedPorts_iff hread).mpr ⟨m, hm, hport⟩
      exact hpublished image himage ((hdeclared image).mpr (.inr ⟨rfl, .inr hport⟩))

/-- A service, if there is one, uses what its declared ports do. -/
lemma uses_service (d : Config.ServiceDeclaration) :
    (∃ r ∈ d.service?.toList, r.Uses n) ↔ ∃ p ∈ d.ports, p.toServicePort.Uses n := by
  cases hservice : d.service? with
  | none => simp [ports_eq_nil_of_service? hservice]
  | some service =>
    have hpod : ¬service.pod.Uses n := by
      rw [Resource.pod_of_podless (kind_of_service? hservice ▸ by decide)]
      exact PodSpec.not_uses_default
    simp [Resource.Uses, hpod, servicePorts_of_service hservice]

end DefaultService

end Enricher

/-! ### Additions to nothing -/

lemma Collection.uses_append (before extra : Collection) {n : Int32} :
    Collection.Uses (before ++ extra) n ↔ before.Uses n ∨ ∃ r ∈ extra, r.Uses n := by
  simp only [Collection.Uses, List.mem_append, or_and_right, exists_or]

namespace StandardEnricher

variable {c : Enricher.Context} {platform : Config.Platform} {before after : Collection}

/-- A controller that is added to nothing uses what is bound, and there is no service yet. -/
lemma uses_of_defaultController
    (h : ((defaultController.enricher c).addMissing platform []).Returns after) :
    after.hasKind [.service] = false ∧ ∀ n, after.Uses n ↔
      (Enricher.DefaultController.addedKind? c platform).isSome = true ∧
        ∃ m, c.Reads m ∧ m.Uses n := by
  obtain ⟨hdeclared, _⟩ | ⟨_, hnone, rfl⟩ | ⟨_, kind, added, hkind, hadded, rfl⟩ :=
    Enricher.DefaultController.addMissing_cases h
  · cases hdeclared
  · simp [Collection.Uses, Collection.hasKind, hnone]
  · have hcontroller := Enricher.DefaultController.isController_of_addedKind? hkind
    constructor
    · obtain ⟨_, hadded', _⟩ := Enricher.DefaultController.returns_controller? hadded
      refine Collection.hasKind_eq_false_iff.mpr fun r hr hservice => ?_
      cases List.mem_singleton.mp hr
      rw [← hadded', List.mem_singleton.mp hservice] at hcontroller
      cases hcontroller
    · intro n
      rw [hkind, List.nil_append]
      simp [Collection.Uses, Enricher.DefaultController.uses_controller hcontroller hadded]

/-- The steps in front of that of images add everything that uses a port. -/
lemma emits_of_addAll
    (h : (addAll c platform [naming, defaultController, defaultService] []).Returns after) :
    c.PortsRead ∧ ∀ n, after.Uses n ↔ c.Emits platform n := by
  rw [addAll_front_nil, Logged.returns_bind] at h
  obtain ⟨made, hmade, hservice⟩ := h
  obtain ⟨hkind, huses⟩ := uses_of_defaultController hmade
  obtain ⟨d, hd, _⟩ := Enricher.DefaultService.addMissing_cases hservice
  have hread := Enricher.DefaultService.portsRead_of_declaration hd
  obtain ⟨d', hd', hports⟩ := Enricher.DefaultService.exists_declaration hread
  cases hd.symm.trans hd'
  have hafter := hservice.unique (Enricher.DefaultService.returns_addMissing platform hd made)
  rw [if_neg (by simp [hkind])] at hafter
  refine ⟨hread, fun n => ?_⟩
  rw [hafter, Collection.uses_append, huses, Enricher.DefaultService.uses_service, hports,
    Enricher.DefaultService.uses_declaredPorts hread, Enricher.Context.emits_iff]

lemma emits_of_addAll_all (h : (addAll c platform all []).Returns after) :
    c.PortsRead ∧ ∀ n, after.Uses n ↔ c.Emits platform n := by
  rw [addAll_all, Logged.returns_bind] at h
  obtain ⟨made, hmade, h⟩ := h
  obtain ⟨hread, hemits⟩ := emits_of_addAll hmade
  exact ⟨hread, fun n => (uses_of_addAll (by decide) (by decide) h).trans (hemits n)⟩

end StandardEnricher
end Manifests
