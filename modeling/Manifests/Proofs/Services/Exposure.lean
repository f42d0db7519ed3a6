import Manifests.Proofs.Repetition.Services
import Manifests.Proofs.Steps

/-! What images expose, and what the service that is added for them publishes.  The numbers of an
image's ports go through a list in ascending order, in which a number that is exposed under two
protocols stands once. -/
namespace Manifests

namespace PortMapping

variable {properties : SortedMap String} {spec : String} {m : PortMapping}

lemma protocol_splitProtocol (cs : List Char) :
    (splitProtocol cs).2 = "tcp" ∨ (splitProtocol cs).2 = "udp" := by
  unfold splitProtocol
  dsimp only
  split
  · exact .inl rfl
  · split
    · exact .inr rfl
    · exact .inl rfl

lemma protocol_bindHost (host : List Char) :
    (bindHost properties host m).protocol = m.protocol := by
  unfold bindHost
  split
  · rfl
  · split <;> rfl

lemma protocol_of_parse (h : parse properties spec = .ok m) :
    m.protocol = "tcp" ∨ m.protocol = "udp" := by
  have hprotocol : m.protocol = (splitProtocol (Text.trimChars spec.toList)).2 := by
    unfold parse at h
    dsimp only at h
    split at h
    · cases h
    · split at h
      · obtain ⟨port, _, h⟩ := Except.bind_eq_ok.mp h
        cases h
        rfl
      · obtain ⟨port, _, h⟩ := Except.bind_eq_ok.mp h
        cases h
        exact protocol_bindHost _
      · obtain ⟨port, _, h⟩ := Except.bind_eq_ok.mp h
        obtain ⟨hostPort, _, h⟩ := Except.bind_eq_ok.mp h
        cases h
        rfl
      · cases h
  rw [hprotocol]
  exact protocol_splitProtocol _

end PortMapping

/-- The port leads to a container port under a protocol. -/
def ServicePort.LeadsTo (p : ServicePort) (port : Int32) (protocol : String) : Prop :=
  p.targetPort = some (.int port) ∧ p.protocol = some protocol

namespace Config.Image

/-- The image exposes a container port under a protocol. -/
def Exposes (properties : SortedMap String) (i : Image) (port : Int32) (protocol : String) : Prop :=
  ∃ spec ∈ i.ports, ∃ m, PortMapping.parse properties spec = .ok m ∧ m.containerPort = port ∧
    Text.upper m.protocol = protocol

end Config.Image

namespace Enricher

namespace Context

/-- Every port of an image can be read. -/
def PortsRead (c : Context) : Prop :=
  ∀ image ∈ c.images, ∀ spec ∈ image.ports, ∃ m,
    PortMapping.parse c.project.properties spec = .ok m

lemma portsRead_of_isSome {c : Context} (h : ∀ image ∈ c.images, ∀ spec ∈ image.ports,
    (PortMapping.parse c.project.properties spec).toOption.isSome = true) : c.PortsRead := by
  intro image himage spec hspec
  exact Except.exists_eq_ok (h image himage spec hspec)

/-- Some image exposes a container port under a protocol. -/
def Exposes (c : Context) (port : Int32) (protocol : String) : Prop :=
  ∃ image ∈ c.images, image.Exposes c.project.properties port protocol

lemma Exposes.protocol {c : Context} {port : Int32} {protocol : String}
    (h : c.Exposes port protocol) : protocol = "TCP" ∨ protocol = "UDP" := by
  obtain ⟨image, _, spec, _, m, hm, _, rfl⟩ := h
  obtain htcp | hudp := PortMapping.protocol_of_parse hm
  · rw [htcp]
    exact .inl (by decide)
  · rw [hudp]
    exact .inr (by decide)

/-- The ports of a service lead to all that is exposed and to nothing else. -/
structure CoveredBy (c : Context) (ports : List ServicePort) : Prop where
  reached : ∀ port protocol, c.Exposes port protocol → ∃ p ∈ ports, p.LeadsTo port protocol
  exposed : ∀ p ∈ ports, ∃ port protocol, c.Exposes port protocol ∧ p.LeadsTo port protocol

end Context

namespace DefaultService

/-! ### The numbers of ports, in ascending order -/

section Numbers

variable {port p : Int32} {ports exposed : List Int32}

/-- Port numbers, each of them once. -/
def Ascending (ports : List Int32) : Prop := ports.Pairwise fun p q => p.toInt < q.toInt

lemma Ascending.nodup (h : Ascending ports) : ports.Nodup := by
  refine List.Pairwise.imp ?_ h
  rintro p q hlt rfl
  exact Int.lt_irrefl _ hlt

lemma mem_insertPort : p ∈ insertPort port ports ↔ p = port ∨ p ∈ ports := by
  induction ports with
  | nil => simp [insertPort]
  | cons q rest ih =>
    rw [insertPort]
    split
    · exact List.mem_cons
    · split
      next heq => simp [heq]
      next =>
        rw [List.mem_cons, ih, List.mem_cons]
        exact or_left_comm

lemma ascending_insertPort (port : Int32) (h : Ascending ports) :
    Ascending (insertPort port ports) := by
  induction ports with
  | nil => exact List.pairwise_singleton _ _
  | cons q rest ih =>
    obtain ⟨hq, hrest⟩ := List.pairwise_cons.mp h
    rw [insertPort]
    split
    next hlt =>
      refine List.pairwise_cons.mpr ⟨fun p hp => ?_, h⟩
      obtain rfl | hp := List.mem_cons.mp hp
      · exact hlt
      · exact Int.lt_trans hlt (hq p hp)
    next hge =>
      split
      next => exact h
      next hne =>
        refine List.pairwise_cons.mpr ⟨fun p hp => ?_, ih hrest⟩
        obtain rfl | hp := mem_insertPort.mp hp
        · have hne' : p.toInt ≠ q.toInt := fun heq => hne (Int32.toInt_inj.mp heq)
          omega
        · exact hq p hp

/-- The numbers of some mappings. -/
def numbers (mappings : List PortMapping) : List Int32 :=
  mappings.foldl (fun ports m => insertPort m.containerPort ports) []

lemma mem_foldl_insertPort (mappings : List PortMapping) :
    p ∈ mappings.foldl (fun ports m => insertPort m.containerPort ports) ports ↔
      p ∈ ports ∨ ∃ m ∈ mappings, m.containerPort = p := by
  induction mappings generalizing ports with
  | nil => simp
  | cons m mappings ih =>
    rw [List.foldl_cons, ih, mem_insertPort, List.exists_mem_cons_iff, eq_comm, or_assoc]
    exact or_left_comm

lemma ascending_foldl_insertPort (mappings : List PortMapping) (h : Ascending ports) :
    Ascending (mappings.foldl (fun ports m => insertPort m.containerPort ports) ports) := by
  induction mappings generalizing ports with
  | nil => exact h
  | cons m mappings ih => exact ih (ascending_insertPort m.containerPort h)

lemma mem_numbers {mappings : List PortMapping} :
    p ∈ numbers mappings ↔ ∃ m ∈ mappings, m.containerPort = p :=
  (mem_foldl_insertPort mappings).trans (by simp)

lemma ascending_numbers (mappings : List PortMapping) : Ascending (numbers mappings) :=
  ascending_foldl_insertPort mappings .nil

end Numbers

/-! ### What images declare -/

section Declared

variable {c : Context} {image : Config.Image}

/-- The numbers of the container ports of an image. -/
def exposedPorts (c : Context) (image : Config.Image) : List Int32 :=
  numbers ((image.ports.mapM (PortMapping.parse c.project.properties)).toOption.getD [])

lemma nodup_exposedPorts (c : Context) (image : Config.Image) : (exposedPorts c image).Nodup :=
  (ascending_numbers _).nodup

/-- The ports that the service declares for an image. -/
def declaredPorts (c : Context) (image : Config.Image) : List Config.PortDeclaration :=
  declarePorts (exposedPorts c image) [] (exposedPorts c image)

lemma exists_mapM_parse (h : c.PortsRead) (himage : image ∈ c.images) : ∃ mappings,
    image.ports.mapM (PortMapping.parse c.project.properties) = .ok mappings := by
  have hread := h image himage
  generalize image.ports = specs at hread ⊢
  induction specs with
  | nil => exact ⟨[], rfl⟩
  | cons spec specs ih =>
    obtain ⟨⟨m, hm⟩, hread⟩ := List.forall_mem_cons.mp hread
    obtain ⟨mappings, hmappings⟩ := ih hread
    exact ⟨m :: mappings, Except.mapM_eq_ok_iff.mpr (.cons hm (Except.mapM_eq_ok_iff.mp hmappings))⟩

lemma mem_exposedPorts (h : c.PortsRead) (himage : image ∈ c.images) {port : Int32} :
    port ∈ exposedPorts c image ↔
      ∃ protocol, image.Exposes c.project.properties port protocol := by
  obtain ⟨mappings, hmappings⟩ := exists_mapM_parse h himage
  unfold exposedPorts
  rw [hmappings]
  change port ∈ numbers mappings ↔ _
  rw [mem_numbers]
  constructor
  · rintro ⟨m, hm, hport⟩
    obtain ⟨spec, hspec, hparse⟩ := Except.exists_of_mem_mapM hmappings hm
    exact ⟨_, spec, hspec, m, hparse, hport, rfl⟩
  · rintro ⟨_, spec, hspec, m, hparse, hport, -⟩
    obtain ⟨m', hm', hparse'⟩ := Except.exists_mem_of_mapM hmappings hspec
    cases hparse.symm.trans hparse'
    exact ⟨m, hm', hport⟩

lemma imagePorts_eq_ok (h : c.PortsRead) (himage : image ∈ c.images) :
    imagePorts c image = .ok (declaredPorts c image) := by
  obtain ⟨mappings, hmappings⟩ := exists_mapM_parse h himage
  unfold imagePorts declaredPorts exposedPorts
  rw [hmappings]
  rfl

/-- The service declares the ports of all images. -/
lemma exists_declaration (h : c.PortsRead) : ∃ d, declaration c = .ok d ∧
    d.ports = c.images.flatMap (declaredPorts c) := by
  have hlists : c.images.mapM (imagePorts c) = .ok (c.images.map (declaredPorts c)) := by
    rw [Except.mapM_eq_ok_iff, List.forall₂_map_right_iff]
    exact List.forall₂_same.mpr fun image himage => imagePorts_eq_ok h himage
  refine ⟨_, Except.bind_eq_ok.mpr ⟨_, hlists, rfl⟩, ?_⟩
  exact List.flatMap_def.symm

/-- Every container port is the target of one declared port. -/
lemma targetPort_declarePorts (exposed : List Int32) (used : List String) (ports : List Int32) :
    (declarePorts exposed used ports).map (·.targetPort) = ports.map some := by
  induction ports generalizing used with
  | nil => rfl
  | cons port rest ih => exact congrArg (some port :: ·) (ih _)

end Declared

/-! ### What the service publishes -/

section Published

variable {c : Context} {d : Config.ServiceDeclaration} {before : Collection}

lemma upper_defaultProtocol : Text.upper
    (((some "tcp").bind Text.nonBlank?).getD Config.defaultProtocol) = "TCP" := by decide

lemma leadsTo_toServicePort {p : Config.PortDeclaration} {target : Int32}
    (hprotocol : p.protocol = some "tcp") (htarget : p.targetPort = some target) :
    p.toServicePort.LeadsTo target "TCP" := by
  unfold Config.PortDeclaration.toServicePort ServicePort.LeadsTo
  rw [hprotocol, htarget, upper_defaultProtocol]
  exact ⟨rfl, rfl⟩

/-- The service of a declaration has the declared ports. -/
lemma servicePorts_of_service? {service : Resource} (h : d.service? = some service) :
    service.content.servicePorts = if d.ports.isEmpty then none
      else some (d.ports.map Config.PortDeclaration.toServicePort) := by
  unfold Config.ServiceDeclaration.service? at h
  split at h
  · cases h
  · cases h
    rfl

lemma exists_service? (h : d.ports ≠ []) : ∃ service, d.service? = some service := by
  have hports : d.ports.isEmpty = false := by simpa using h
  unfold Config.ServiceDeclaration.service?
  rw [hports]
  exact ⟨_, rfl⟩

/-- Services that are declared are completed; else there is one more, if the images call for it. -/
lemma returns_addMissing (platform : Config.Platform) (hd : declaration c = .ok d)
    (before : Collection) :
    ((enricher c).addMissing platform before).Returns
      (if before.hasKind [.service] then before.map (complete c (d.service?.bind serviceSpec?))
        else before ++ d.service?.toList) := by
  change (addMissing c before).Returns _
  unfold addMissing
  rw [Logged.returns_bind]
  refine ⟨d, hd, ?_⟩
  dsimp only
  split
  next => exact Logged.returns_pure.mpr rfl
  next =>
    cases hservice : d.service? with
    | none => exact Logged.returns_pure.mpr (List.append_nil before).symm
    | some service => exact returns_addService before (headless_of_service? hservice)

/-- The declared ports of an image lead to the ports that it exposes. -/
lemma exists_mem_declaredPorts (hread : c.PortsRead) {image : Config.Image}
    (himage : image ∈ c.images) {port : Int32} :
    (∃ p ∈ declaredPorts c image, p.targetPort = some port) ↔
      ∃ protocol, image.Exposes c.project.properties port protocol := by
  have hmem : some port ∈ (declaredPorts c image).map (·.targetPort) ↔
      port ∈ exposedPorts c image := by
    rw [declaredPorts, targetPort_declarePorts, List.mem_map]
    simp
  rw [← mem_exposedPorts hread himage, ← hmem, List.mem_map]

/-- Every declared port leads to an exposed one, under TCP. -/
lemma exists_leadsTo_of_mem (hread : c.PortsRead) {p : Config.PortDeclaration}
    (hp : p ∈ c.images.flatMap (declaredPorts c)) :
    ∃ port protocol, c.Exposes port protocol ∧ p.toServicePort.LeadsTo port "TCP" := by
  obtain ⟨image, himage, hp⟩ := List.mem_flatMap.mp hp
  obtain ⟨port, htarget⟩ : ∃ port, p.targetPort = some port := by
    have hmem : p.targetPort ∈ (exposedPorts c image).map some := by
      rw [← targetPort_declarePorts (exposedPorts c image) []]
      exact List.mem_map_of_mem hp
    obtain ⟨port, _, hport⟩ := List.mem_map.mp hmem
    exact ⟨port, hport.symm⟩
  obtain ⟨protocol, hexposes⟩ := (exists_mem_declaredPorts hread himage).mp ⟨p, hp, htarget⟩
  exact ⟨port, protocol, ⟨image, himage, hexposes⟩,
    leadsTo_toServicePort (protocol_declarePorts _ _ _ p hp) htarget⟩

/-- There is a declared port for every exposed one. -/
lemma exists_mem_of_exposes (hread : c.PortsRead) {port : Int32} {protocol : String}
    (h : c.Exposes port protocol) :
    ∃ p ∈ c.images.flatMap (declaredPorts c), p.toServicePort.LeadsTo port "TCP" := by
  obtain ⟨image, himage, hexposes⟩ := h
  obtain ⟨p, hp, htarget⟩ := (exists_mem_declaredPorts hread himage).mpr ⟨protocol, hexposes⟩
  exact ⟨p, List.mem_flatMap.mpr ⟨image, himage, hp⟩,
    leadsTo_toServicePort (protocol_declarePorts _ _ _ p hp) htarget⟩

/-- Ports that lead to all exposed numbers under TCP are right where nothing is exposed under
UDP. -/
lemma coveredBy_iff {ports : List ServicePort}
    (hexposed : ∀ p ∈ ports, ∃ port protocol, c.Exposes port protocol ∧ p.LeadsTo port "TCP")
    (hreached : ∀ port protocol, c.Exposes port protocol → ∃ p ∈ ports, p.LeadsTo port "TCP") :
    c.CoveredBy ports ↔ ∀ port, ¬c.Exposes port "UDP" := by
  constructor
  · intro h port hudp
    obtain ⟨p, hp, _, hprotocol⟩ := h.reached port "UDP" hudp
    obtain ⟨_, _, _, _, htcp⟩ := hexposed p hp
    exact absurd (hprotocol.symm.trans htcp) (by decide)
  · intro h
    have htcp : ∀ {port protocol}, c.Exposes port protocol → protocol = "TCP" :=
      fun hexposes => hexposes.protocol.resolve_right fun hudp => h _ (hudp ▸ hexposes)
    refine ⟨fun port protocol hexposes => ?_, fun p hp => ?_⟩
    · cases htcp hexposes
      exact hreached port _ hexposes
    · obtain ⟨port, protocol, hexposes, hleads⟩ := hexposed p hp
      cases htcp hexposes
      exact ⟨port, _, hexposes, hleads⟩

/-- The service that is added publishes every exposed container port under TCP and nothing else,
which is all that is exposed unless a port is exposed under UDP. -/
theorem coveredBy_addMissing_iff (platform : Config.Platform)
    (hkind : before.hasKind [.service] = false) (hread : c.PortsRead)
    (hports : ∃ image ∈ c.images, image.ports ≠ []) :
    ∃ service ports, ((enricher c).addMissing platform before).Returns (before ++ [service]) ∧
      service.kind = .service ∧ service.content.servicePorts = some ports ∧
      (∀ p ∈ ports, ∃ port protocol, c.Exposes port protocol ∧ p.LeadsTo port "TCP") ∧
      (∀ port protocol, c.Exposes port protocol → ∃ p ∈ ports, p.LeadsTo port "TCP") ∧
      (c.CoveredBy ports ↔ ∀ port, ¬c.Exposes port "UDP") := by
  obtain ⟨d, hd, hdports⟩ := exists_declaration hread
  have hexposed : ∀ p ∈ d.ports.map Config.PortDeclaration.toServicePort,
      ∃ port protocol, c.Exposes port protocol ∧ p.LeadsTo port "TCP" := by
    rw [List.forall_mem_map, hdports]
    exact fun p => exists_leadsTo_of_mem hread
  have hreached : ∀ port protocol, c.Exposes port protocol →
      ∃ p ∈ d.ports.map Config.PortDeclaration.toServicePort, p.LeadsTo port "TCP" := by
    intro port protocol hexposes
    obtain ⟨p, hp, hleads⟩ := exists_mem_of_exposes hread hexposes
    exact ⟨_, List.mem_map_of_mem (hdports ▸ hp), hleads⟩
  obtain ⟨image, himage, hspecs⟩ := hports
  obtain ⟨spec, hspec⟩ := List.exists_mem_of_ne_nil _ hspecs
  obtain ⟨m, hm⟩ := hread image himage spec hspec
  obtain ⟨p, hp, _⟩ := exists_mem_of_exposes hread ⟨image, himage, spec, hspec, m, hm, rfl, rfl⟩
  have hne : d.ports ≠ [] := hdports ▸ List.ne_nil_of_mem hp
  obtain ⟨service, hservice⟩ := exists_service? hne
  have hserviceports := servicePorts_of_service? hservice
  rw [if_neg (by simpa using hne)] at hserviceports
  have hreturns := returns_addMissing platform hd before
  rw [hkind, hservice] at hreturns
  exact ⟨service, _, hreturns, kind_of_service? hservice, hserviceports, hexposed, hreached,
    coveredBy_iff hexposed hreached⟩

end Published

/-- The context of a build whose image exposes a port under UDP and one under TCP. -/
def dnsContext : Context where
  project := { (default : Config.Project) with artifactId := "dns", groupId := "org" }
  images := [{ (default : Config.Image) with
    name := some "org/dns", build := some { (default : Config.ImageBuild) with
      ports := ["53/udp", "8080"] } }]
  policy := default
  selection := default
  envDefaults := none

/-- The port under UDP is published under TCP. -/
theorem coveredBy_addMissing_dns :
    Collection.hasKind [] [.service] = false ∧ dnsContext.PortsRead ∧
    (∃ image ∈ dnsContext.images, image.ports ≠ []) ∧
    ∃ service ports, ((enricher dnsContext).addMissing .kubernetes []).Returns [service] ∧
      service.content.servicePorts = some ports ∧ (∃ p ∈ ports, p.LeadsTo 53 "TCP") ∧
      ¬dnsContext.CoveredBy ports := by
  have hread : dnsContext.PortsRead := Context.portsRead_of_isSome (by decide +kernel)
  have hnone : Collection.hasKind [] [.service] = false := rfl
  have hudp : dnsContext.Exposes 53 "UDP" :=
    ⟨_, List.mem_cons_self, "53/udp", List.mem_cons_self, ⟨none, none, 53, "udp"⟩, rfl, rfl,
      by decide⟩
  have hports : ∃ image ∈ dnsContext.images, image.ports ≠ [] :=
    ⟨_, List.mem_cons_self, List.cons_ne_nil _ _⟩
  obtain ⟨service, ports, h, _, hservice, _, hreached, hcovered⟩ :=
    coveredBy_addMissing_iff .kubernetes hnone hread hports
  exact ⟨hnone, hread, hports, service, ports, h, hservice, hreached 53 _ hudp,
    fun hcontra => hcovered.mp hcontra 53 hudp⟩

end DefaultService
end Enricher
end Manifests
