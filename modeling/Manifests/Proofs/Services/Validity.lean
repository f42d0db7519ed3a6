import Mathlib.Data.List.Nodup
import Manifests.Proofs.Repetition.Added
import Manifests.Proofs.Services.Exposure

/-! When the ports of services stay distinct.  Completing a port keeps its number and its protocol
and may give it a name; the ports that images declare are renumbered and named image by image. -/
namespace Manifests

namespace ServicePort

variable {p : ServicePort} {ports : List ServicePort}

/-- The name of the port, unless it is blank. -/
def name? (p : ServicePort) : Option String := p.name.filter fun name => !Text.isBlank name

/-- The number and the protocol of the port, where a blank protocol counts as TCP. -/
def endpoint (p : ServicePort) : Int32 × String :=
  (p.port, (p.protocol.filter fun protocol => !Text.isBlank protocol).getD "TCP")

/-- The name that the port has once it is completed. -/
def settledName (p : ServicePort) : String := p.name?.getD (wellKnownPortName p.port)

/-- No two ports have the same number and protocol, and no two have the same name. -/
structure Distinct (ports : List ServicePort) : Prop where
  endpoints : (ports.map endpoint).Nodup
  names : (ports.filterMap name?).Nodup

end ServicePort

def Resource.servicePorts (r : Resource) : List ServicePort := r.content.servicePorts.getD []

namespace Enricher

namespace Context

/-- The image exposes a container port, under some protocol. -/
def ExposesPort (c : Context) (image : Config.Image) (port : Int32) : Prop :=
  ∃ protocol, image.Exposes c.project.properties port protocol

lemma exposesPort_of_parse {c : Context} {image : Config.Image} {spec : String} {m : PortMapping}
    (hspec : spec ∈ image.ports) (h : PortMapping.parse c.project.properties spec = .ok m) :
    c.ExposesPort image m.containerPort := ⟨_, spec, hspec, m, h, rfl, rfl⟩

/-- No image needs the standard port twice, and no two images expose ports that are called alike. -/
structure PublishesApart (c : Context) : Prop where
  numbers : ∀ image ∈ c.images, c.ExposesPort image 8080 → c.ExposesPort image 9090 →
    c.ExposesPort image 80
  names : c.images.Pairwise fun i j => ∀ p q, c.ExposesPort i p → c.ExposesPort j q →
    wellKnownPortName p ≠ wellKnownPortName q

end Context

namespace DefaultService

open ServicePort

/-! ### Completing ports -/

section Completing

variable {c : Context} {p : ServicePort} {ports : List ServicePort}

lemma filter_choose {value : Option String} {fallback : String}
    (hfallback : Text.isBlank fallback = false) :
    (if (value.bind Text.nonBlank?).isSome then value else some fallback).filter
      (fun text => !Text.isBlank text) =
      some ((value.filter fun text => !Text.isBlank text).getD fallback) := by
  cases value with
  | none => simp [hfallback]
  | some text =>
    cases h : Text.isBlank text <;>
      simp [Text.isSome_nonBlank?, Option.filter_some, h, hfallback]

lemma endpoint_completePort (p : ServicePort) : (completePort p).endpoint = p.endpoint := by
  unfold endpoint completePort
  dsimp only
  rw [filter_choose (by decide)]
  rfl

lemma name?_completePort (p : ServicePort) : (completePort p).name? = some p.settledName :=
  filter_choose (isBlank_wellKnownPortName p.port)

/-- Completed ports are distinct if the names that they are given are. -/
lemma distinct_map_completePort_iff (h : Distinct ports) :
    Distinct (ports.map completePort) ↔ (ports.map settledName).Nodup := by
  have hendpoints : (ports.map completePort).map endpoint = ports.map endpoint := by
    rw [List.map_map]
    exact List.map_congr_left fun p _ => endpoint_completePort p
  have hnames : (ports.map completePort).filterMap name? = ports.map settledName := by
    rw [List.filterMap_map, ← List.filterMap_eq_map]
    exact List.filterMap_congr fun p _ => name?_completePort p
  constructor
  · intro hcompleted
    exact hnames ▸ hcompleted.names
  · intro hsettled
    exact ⟨hendpoints ▸ h.endpoints, hnames ▸ hsettled⟩

end Completing

/-! ### Ports that images declare -/

section Declared

variable {c : Context} {image : Config.Image} {exposed ports : List Int32} {used : List String}

lemma wellKnownPortName_publishedPort (exposed : List Int32) (port : Int32) :
    wellKnownPortName (publishedPort exposed port) = wellKnownPortName port := by
  unfold publishedPort
  split
  next h =>
    obtain ⟨_, hport⟩ := Bool.and_eq_true _ _ ▸ h
    obtain rfl | rfl : port = 8080 ∨ port = 9090 := by simpa using hport
    · rfl
    · rfl
  next => rfl

lemma publishedPort_of_mem (h : httpPort ∈ exposed) (port : Int32) :
    publishedPort exposed port = port := by
  simp [publishedPort, h]

/-- Only the alternatives move, to the standard port. -/
lemma publishedPort_of_not_mem (h : httpPort ∉ exposed) (port : Int32) :
    publishedPort exposed port = if port = 8080 ∨ port = 9090 then httpPort else port := by
  simp [publishedPort, h]

/-- Numbers are published apart unless both alternatives to the standard port take its place. -/
lemma nodup_map_publishedPort_iff (h : exposed.Nodup) :
    (exposed.map (publishedPort exposed)).Nodup ↔
      (8080 ∈ exposed → 9090 ∈ exposed → 80 ∈ exposed) := by
  rw [List.nodup_map_iff_inj_on h]
  constructor
  · intro hinj h8080 h9090
    by_contra h80
    have hpublished := publishedPort_of_not_mem h80
    have heq := hinj 8080 h8080 9090 h9090
      ((hpublished 8080).trans (hpublished 9090).symm)
    exact absurd heq (by decide)
  · intro halternatives p hp q hq heq
    by_cases h80 : httpPort ∈ exposed
    · rwa [publishedPort_of_mem h80, publishedPort_of_mem h80] at heq
    · have hne : ∀ port ∈ exposed, port ≠ httpPort := fun port hport heq => h80 (heq ▸ hport)
      rw [publishedPort_of_not_mem h80, publishedPort_of_not_mem h80] at heq
      split at heq
      next hp' =>
        split at heq
        next hq' =>
          obtain rfl | rfl := hp' <;> obtain rfl | rfl := hq'
          · rfl
          · exact absurd (halternatives hp hq) h80
          · exact absurd (halternatives hq hp) h80
          · rfl
        next => exact absurd heq.symm (hne q hq)
      next =>
        split at heq
        next => exact absurd heq (hne p hp)
        next => exact heq

lemma mem_names_declarePorts {name : String} :
    name ∈ (declarePorts exposed used ports).filterMap (·.name) ↔
      name ∉ used ∧ ∃ port ∈ ports, wellKnownPortName port = name := by
  induction ports generalizing used with
  | nil => simp [declarePorts]
  | cons port rest ih =>
    rw [declarePorts, wellKnownPortName_publishedPort, List.exists_mem_cons_iff]
    by_cases hused : wellKnownPortName port ∈ used
    · rw [List.filterMap_cons_none (by simp [hused]), ih, List.mem_cons]
      grind
    · rw [List.filterMap_cons_some (by simp [hused]; rfl), List.mem_cons, ih, List.mem_cons]
      grind

lemma nodup_names_declarePorts :
    ((declarePorts exposed used ports).filterMap (·.name)).Nodup := by
  induction ports generalizing used with
  | nil => exact .nil
  | cons port rest ih =>
    rw [declarePorts, List.filterMap_cons]
    split
    next => exact ih
    next name hname =>
      refine List.nodup_cons.mpr ⟨fun hmem => ?_, ih⟩
      have hnot := (mem_names_declarePorts.mp hmem).1
      dsimp only at hname
      split at hname
      · cases hname
      · cases hname
        exact hnot List.mem_cons_self

lemma endpoint_toServicePort {d : Config.PortDeclaration} (h : d.protocol = some "tcp") :
    d.toServicePort.endpoint = (d.port, "TCP") := by
  unfold Config.PortDeclaration.toServicePort endpoint
  rw [h, upper_defaultProtocol]
  rfl

lemma endpoints_declarePorts : (declarePorts exposed used ports).map
    (·.toServicePort.endpoint) = (ports.map (publishedPort exposed)).map (·, "TCP") := by
  induction ports generalizing used with
  | nil => rfl
  | cons port rest ih =>
    rw [declarePorts, List.map_cons, ih, endpoint_toServicePort rfl]
    rfl

/-- No port gets a blank name. -/
lemma names_declarePorts : (declarePorts exposed used ports).filterMap (·.toServicePort.name?) =
    (declarePorts exposed used ports).filterMap (·.name) := by
  refine List.filterMap_congr fun d hd => ?_
  change d.name.filter _ = d.name
  cases hname : d.name with
  | none => rfl
  | some name =>
    obtain ⟨_, port, _, rfl⟩ := mem_names_declarePorts.mp (List.mem_filterMap.mpr ⟨d, hd, hname⟩)
    rw [Option.filter_some, if_pos]
    rw [isBlank_wellKnownPortName]
    rfl

/-- The ports of an image alone. -/
lemma distinct_endpoints_declaredPorts (hread : c.PortsRead) (himage : image ∈ c.images) :
    ((declaredPorts c image).map (·.toServicePort.endpoint)).Nodup ↔
      (c.ExposesPort image 8080 → c.ExposesPort image 9090 → c.ExposesPort image 80) := by
  rw [declaredPorts, endpoints_declarePorts,
    List.nodup_map_iff fun _ _ h => congrArg Prod.fst h,
    nodup_map_publishedPort_iff (nodup_exposedPorts c image)]
  simp only [Context.ExposesPort, ← mem_exposedPorts hread himage]

lemma mem_names_declaredPorts (hread : c.PortsRead) (himage : image ∈ c.images) {name : String} :
    name ∈ (declaredPorts c image).filterMap (·.toServicePort.name?) ↔
      ∃ port, c.ExposesPort image port ∧ wellKnownPortName port = name := by
  simp only [declaredPorts, names_declarePorts, mem_names_declarePorts, Context.ExposesPort,
    ← mem_exposedPorts hread himage]
  simp

lemma mem_endpoints_declaredPorts (hread : c.PortsRead) (himage : image ∈ c.images)
    {e : Int32 × String} (he : e ∈ (declaredPorts c image).map (·.toServicePort.endpoint)) :
    ∃ port, c.ExposesPort image port ∧ wellKnownPortName port = wellKnownPortName e.1 := by
  rw [declaredPorts, endpoints_declarePorts, List.map_map] at he
  obtain ⟨port, hport, rfl⟩ := List.mem_map.mp he
  exact ⟨port, (mem_exposedPorts hread himage).mp hport,
    (wellKnownPortName_publishedPort _ port).symm⟩

/-- Two images give no name twice when no ports of theirs are called alike. -/
lemma disjoint_names_declaredPorts_iff (hread : c.PortsRead) {i j : Config.Image}
    (hi : i ∈ c.images) (hj : j ∈ c.images) :
    List.Disjoint ((declaredPorts c i).filterMap (·.toServicePort.name?))
        ((declaredPorts c j).filterMap (·.toServicePort.name?)) ↔
      ∀ p q, c.ExposesPort i p → c.ExposesPort j q →
        wellKnownPortName p ≠ wellKnownPortName q := by
  constructor
  · intro hdisjoint p q hp hq heq
    exact hdisjoint ((mem_names_declaredPorts hread hi).mpr ⟨p, hp, rfl⟩)
      ((mem_names_declaredPorts hread hj).mpr ⟨q, hq, heq.symm⟩)
  · intro hne name hname hname'
    obtain ⟨p, hp, rfl⟩ := (mem_names_declaredPorts hread hi).mp hname
    obtain ⟨q, hq, heq⟩ := (mem_names_declaredPorts hread hj).mp hname'
    exact hne p q hp hq heq.symm

/-- Numbers and names are those of the images, one image after the other. -/
lemma distinct_flatMap_declaredPorts_iff (c : Context) :
    Distinct ((c.images.flatMap (declaredPorts c)).map Config.PortDeclaration.toServicePort) ↔
      (c.images.flatMap fun i => (declaredPorts c i).map (·.toServicePort.endpoint)).Nodup ∧
        (c.images.flatMap fun i =>
          (declaredPorts c i).filterMap (·.toServicePort.name?)).Nodup := by
  have hendpoints : ((c.images.flatMap (declaredPorts c)).map
      Config.PortDeclaration.toServicePort).map endpoint =
      c.images.flatMap fun i => (declaredPorts c i).map (·.toServicePort.endpoint) := by
    rw [List.map_map, List.map_flatMap]
    rfl
  have hnames : ((c.images.flatMap (declaredPorts c)).map
      Config.PortDeclaration.toServicePort).filterMap name? =
      c.images.flatMap fun i => (declaredPorts c i).filterMap (·.toServicePort.name?) := by
    rw [List.filterMap_map, List.filterMap_flatMap]
    rfl
  rw [← hendpoints, ← hnames]
  exact ⟨fun h => ⟨h.endpoints, h.names⟩, fun h => ⟨h.1, h.2⟩⟩

/-- The ports of all images together.  Where names differ from image to image, numbers do. -/
lemma distinct_declaredPorts_iff (hread : c.PortsRead) :
    Distinct ((c.images.flatMap (declaredPorts c)).map Config.PortDeclaration.toServicePort) ↔
      c.PublishesApart := by
  have hnames := @disjoint_names_declaredPorts_iff c hread
  rw [distinct_flatMap_declaredPorts_iff, List.nodup_flatMap, List.nodup_flatMap]
  constructor
  · rintro ⟨⟨hendpoints, _⟩, _, hdisjoint⟩
    exact ⟨fun image himage =>
        (distinct_endpoints_declaredPorts hread himage).mp (hendpoints image himage),
      (List.Pairwise.iff_of_mem hnames).mp hdisjoint⟩
  · intro h
    refine ⟨⟨fun image himage =>
        (distinct_endpoints_declaredPorts hread himage).mpr (h.numbers image himage), ?_⟩,
      fun image _ => ?_, (List.Pairwise.iff_of_mem hnames).mpr h.names⟩
    · refine h.names.imp_of_mem fun hi hj hne e he he' => ?_
      obtain ⟨p, hp, heq⟩ := mem_endpoints_declaredPorts hread hi he
      obtain ⟨q, hq, heq'⟩ := mem_endpoints_declaredPorts hread hj he'
      exact hne p q hp hq (heq.trans heq'.symm)
    · rw [declaredPorts, names_declarePorts]
      exact nodup_names_declarePorts

end Declared

/-! ### Services in a collection -/

section Services

variable {c : Context} {d : Config.ServiceDeclaration} {fallback : ServiceSpec} {r : Resource}
  {before : Collection}

/-- A service that is called like the declared one, or like nothing. -/
def IsDefault (c : Context) (r : Resource) : Prop :=
  r.kind = .service ∧ (r.name? = none ∨ r.metadata.name = some (defaultName c))

lemma name_nameResource_iff {name : String} :
    (Naming.nameResource name r).metadata.name = some name ↔
      r.name? = none ∨ r.metadata.name = some name := by
  unfold Naming.nameResource
  cases hname : r.name? with
  | none => simp [Resource.rename]
  | some _ => simp

lemma servicePorts_nameResource (name : String) (r : Resource) :
    (Naming.nameResource name r).servicePorts = r.servicePorts := by
  rw [Resource.servicePorts, Naming.content_nameResource]
  rfl

lemma servicePorts_complete_none (c : Context) (r : Resource) :
    (complete c none r).servicePorts = r.servicePorts := by
  by_cases hkind : r.kind = .service
  · obtain ⟨m, content⟩ := r
    obtain ⟨spec, rfl⟩ := exists_content_of_service hkind
    exact servicePorts_nameResource (defaultName c) ⟨m, .service spec⟩
  · rw [complete_of_kind hkind]

lemma servicePorts_complete_of_not (fallback : ServiceSpec) (h : ¬IsDefault c r) :
    (complete c (some fallback) r).servicePorts = r.servicePorts := by
  by_cases hkind : r.kind = .service
  · obtain ⟨m, content⟩ := r
    obtain ⟨spec, rfl⟩ := exists_content_of_service hkind
    rw [complete_service]
    dsimp only
    rw [if_neg fun hname => h ⟨rfl, name_nameResource_iff.mp hname⟩]
    exact servicePorts_nameResource (defaultName c) ⟨m, .service spec⟩
  · rw [complete_of_kind hkind]

lemma ports_completeSpec (spec fallback : ServiceSpec) :
    (completeSpec spec fallback).ports.getD [] =
    if spec.ports.getD [] = [] then fallback.ports.getD []
    else (spec.ports.getD []).map completePort := by
  unfold completeSpec
  split
  next p ports hports => simp [hports]
  next hports =>
    rw [if_pos]
    cases hspec : spec.ports with
    | none => rfl
    | some ports =>
      cases ports with
      | nil => rfl
      | cons p ports => exact absurd hspec (hports p ports)

/-- A service without ports takes those of the declared one. -/
lemma servicePorts_complete (fallback : ServiceSpec) (h : IsDefault c r) :
    (complete c (some fallback) r).servicePorts =
      if r.servicePorts = [] then fallback.ports.getD [] else r.servicePorts.map completePort := by
  obtain ⟨hkind, hname⟩ := h
  obtain ⟨m, content⟩ := r
  obtain ⟨spec, rfl⟩ := exists_content_of_service hkind
  rw [complete_service]
  dsimp only
  rw [if_pos (name_nameResource_iff.mpr hname)]
  cases spec with
  | none => rfl
  | some spec => exact ports_completeSpec spec fallback

lemma servicePorts_of_service {service : Resource} (h : d.service? = some service) :
    service.servicePorts = d.ports.map Config.PortDeclaration.toServicePort := by
  rw [Resource.servicePorts, servicePorts_of_service? h]
  split
  next hempty =>
    rw [List.isEmpty_iff.mp hempty]
    rfl
  next => rfl

/-- The declared service has a specification, with the ports that are declared. -/
lemma exists_fallback {service : Resource} (h : d.service? = some service) :
    ∃ fallback, d.service?.bind serviceSpec? = some fallback ∧
      fallback.ports.getD [] = d.ports.map Config.PortDeclaration.toServicePort := by
  have hports := servicePorts_of_service h
  rw [h]
  unfold Config.ServiceDeclaration.service? at h
  split at h
  · cases h
  · cases h
    exact ⟨_, rfl, hports⟩

lemma ports_eq_nil_of_service? (h : d.service? = none) : d.ports = [] := by
  by_contra hne
  obtain ⟨service, hservice⟩ := exists_service? hne
  cases hservice.symm.trans h

/-- What completing does to the ports of one service. -/
lemma distinct_complete_iff (hr : Distinct r.servicePorts) :
    Distinct (complete c (d.service?.bind serviceSpec?) r).servicePorts ↔
      (IsDefault c r → r.servicePorts = [] →
        Distinct (d.ports.map Config.PortDeclaration.toServicePort)) ∧
      (d.service?.isSome = true → IsDefault c r → (r.servicePorts.map settledName).Nodup) := by
  cases hservice : d.service? with
  | none =>
    rw [Option.bind_none, servicePorts_complete_none, ports_eq_nil_of_service? hservice]
    exact ⟨fun _ => ⟨fun _ _ => ⟨.nil, .nil⟩, nofun⟩, fun _ => hr⟩
  | some service =>
    obtain ⟨fallback, hfallback, hports⟩ := exists_fallback hservice
    rw [← hservice, hfallback]
    by_cases hdefault : IsDefault c r
    · rw [servicePorts_complete fallback hdefault]
      split
      next hnil =>
        rw [hports]
        exact ⟨fun h => ⟨fun _ _ => h, fun _ _ => hnil ▸ .nil⟩, fun h => h.1 hdefault hnil⟩
      next hne =>
        rw [distinct_map_completePort_iff hr]
        exact ⟨fun h => ⟨fun _ hnil => absurd hnil hne, fun _ _ => h⟩,
          fun h => h.2 (hservice ▸ rfl) hdefault⟩
    · rw [servicePorts_complete_of_not fallback hdefault]
      exact ⟨fun _ => ⟨fun h => absurd h hdefault, fun _ h => absurd h hdefault⟩, fun _ => hr⟩

/-- The ports of all services stay distinct if the images' ports are published apart wherever a
service takes them, and if no port is given the name of another one. -/
theorem distinct_addMissing_iff (platform : Config.Platform) (hread : c.PortsRead)
    (hbefore : ∀ r ∈ before, Distinct r.servicePorts) :
    ∃ after, ((enricher c).addMissing platform before).Returns after ∧
      ((∀ r ∈ after, Distinct r.servicePorts) ↔
        ((before.hasKind [.service] = false ∨ ∃ r ∈ before, IsDefault c r ∧ r.servicePorts = []) →
          c.PublishesApart) ∧
        ((declared? c).isSome = true → ∀ r ∈ before, IsDefault c r →
          (r.servicePorts.map settledName).Nodup)) := by
  obtain ⟨d, hd, hports⟩ := exists_declaration hread
  refine ⟨_, returns_addMissing platform hd before, ?_⟩
  rw [declared?_of_declaration hd, ← distinct_declaredPorts_iff hread, ← hports]
  cases hkind : before.hasKind [.service] with
  | true =>
    rw [if_pos rfl, List.forall_mem_map]
    constructor
    · intro h
      refine ⟨?_, fun hsome r hr hdefault => ?_⟩
      · rintro (hfalse | ⟨r, hr, hdefault, hnil⟩)
        · cases hfalse
        · exact ((distinct_complete_iff (hbefore r hr)).mp (h r hr)).1 hdefault hnil
      · exact ((distinct_complete_iff (hbefore r hr)).mp (h r hr)).2 hsome hdefault
    · rintro ⟨hdeclared, hsettled⟩ r hr
      exact (distinct_complete_iff (hbefore r hr)).mpr
        ⟨fun hdefault hnil => hdeclared (.inr ⟨r, hr, hdefault, hnil⟩),
          fun hsome hdefault => hsettled hsome r hr hdefault⟩
  | false =>
    -- There is no service but the one that is added.
    have hnone : ∀ r ∈ before, ¬IsDefault c r := fun r hr hdefault =>
      Collection.hasKind_eq_false_iff.mp hkind r hr (List.mem_singleton.mpr hdefault.1)
    constructor
    · intro h
      refine ⟨fun _ => ?_, fun _ r hr hdefault => absurd hdefault (hnone r hr)⟩
      cases hservice : d.service? with
      | none =>
        rw [ports_eq_nil_of_service? hservice]
        exact ⟨.nil, .nil⟩
      | some service =>
        rw [← servicePorts_of_service hservice]
        exact h service (by simp [hservice])
    · rintro ⟨hdeclared, -⟩ r hr
      obtain hr | hr := List.mem_append.mp hr
      · exact hbefore r hr
      · rw [servicePorts_of_service (Option.mem_toList.mp hr)]
        exact hdeclared (.inl rfl)

end Services

/-- The context of a build with an image for each port. -/
def exposingContext (specs : List String) : Context where
  project := { (default : Config.Project) with artifactId := "shop", groupId := "org" }
  images := specs.map fun spec => { (default : Config.Image) with
    name := some "org/web", build := some { (default : Config.ImageBuild) with ports := [spec] } }
  policy := default
  selection := default
  envDefaults := none

/-- A service that is called like the project, and one with ports of its own. -/
def declaredServices : Collection :=
  [{ metadata := { (default : ObjectMeta) with name := some "shop" }
     content := .service none },
   { metadata := { (default : ObjectMeta) with name := some "admin" }
     content := .service (some { (default : ServiceSpec) with
       ports := some [{ (default : ServicePort) with name := some "http", port := 80 },
         { (default : ServicePort) with name := some "https", port := 443 }] }) }]

/-- Two images expose ports that have no customary name, and both get the same one. -/
theorem distinct_addMissing_shop :
    (exposingContext ["5000", "6000"]).PortsRead ∧
    (∀ r ∈ declaredServices, Distinct r.servicePorts) ∧
    ∃ after, ((enricher (exposingContext ["5000", "6000"])).addMissing .kubernetes
        declaredServices).Returns after ∧ ¬∀ r ∈ after, Distinct r.servicePorts := by
  have hread : (exposingContext ["5000", "6000"]).PortsRead :=
    Context.portsRead_of_isSome (by decide +kernel)
  have hdistinct : ∀ r ∈ declaredServices, Distinct r.servicePorts := by
    have hnodup : ∀ r ∈ declaredServices, (r.servicePorts.map endpoint).Nodup ∧
        (r.servicePorts.filterMap name?).Nodup := by decide +kernel
    exact fun r hr => ⟨(hnodup r hr).1, (hnodup r hr).2⟩
  obtain ⟨after, h, hiff⟩ := distinct_addMissing_iff .kubernetes hread hdistinct
  refine ⟨hread, hdistinct, after, h, fun hafter => ?_⟩
  have hapart := (hiff.mp hafter).1
    (.inr ⟨_, List.mem_cons_self, ⟨rfl, .inr (by decide +kernel)⟩, rfl⟩)
  exact (List.pairwise_cons.mp hapart.names).1 _ List.mem_cons_self 5000 6000
    (Context.exposesPort_of_parse List.mem_cons_self (m := ⟨none, none, 5000, "tcp"⟩) rfl)
    (Context.exposesPort_of_parse List.mem_cons_self (m := ⟨none, none, 6000, "tcp"⟩) rfl) rfl

end DefaultService
end Enricher
end Manifests
