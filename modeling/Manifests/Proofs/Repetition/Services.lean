import Manifests.Proofs.Extension.Enrichment
import Manifests.Proofs.Repetition.Names

/-! Completing services that are complete, and filling secrets that are filled.  A service may still
lack the names of the ports that it took over from the images; with those names it is complete. -/
namespace Manifests

namespace Enricher

/-! ### Services -/

namespace DefaultService

variable {c : Context} {spec fallback : ServiceSpec} {r s : Resource}

/-- A port with a name and a protocol. -/
structure CompletePort (p : ServicePort) : Prop where
  name : (p.name.bind Text.nonBlank?).isSome = true
  protocol : (p.protocol.bind Text.nonBlank?).isSome = true

lemma completePort_eq_self {p : ServicePort} (h : CompletePort p) : completePort p = p := by
  unfold completePort
  rw [if_pos h.name, if_pos h.protocol]

lemma completePort_completePort (p : ServicePort) : CompletePort (completePort p) where
  name := by
    dsimp only [completePort]
    split
    next h => exact h
    next => exact isSome_bind_nonBlank?.mpr ⟨_, rfl, isBlank_wellKnownPortName p.port⟩
  protocol := by
    dsimp only [completePort]
    split
    next h => exact h
    next => decide

/-- Ports that are those of the fallback as long as there are none, and carry protocols. -/
structure PortsFilled (fallback ports : Option (List ServicePort)) : Prop where
  present : ports.getD [] = [] → ports = fallback
  protocols : ∀ p ∈ ports.getD [], (p.protocol.bind Text.nonBlank?).isSome = true

lemma completeSpec_eq_self (h : PortsFilled fallback.ports spec.ports)
    (hnames : ∀ p ∈ spec.ports.getD [], (p.name.bind Text.nonBlank?).isSome = true) :
    completeSpec spec fallback = spec := by
  unfold completeSpec
  split
  next p ports hports =>
    have hmap : (p :: ports).map completePort = p :: ports := by
      refine (List.map_congr_left fun q hq => ?_).trans (List.map_id _)
      rw [hports] at h hnames
      exact completePort_eq_self ⟨hnames q hq, h.protocols q hq⟩
    obtain ⟨⟩ := spec
    cases hports
    rw [hmap]
  next hports =>
    have hself : fallback.ports = spec.ports := by
      refine (h.present ?_).symm
      cases hs : spec.ports with
      | none => rfl
      | some l =>
        cases l with
        | nil => rfl
        | cons p ports => exact absurd hs (hports p ports)
    obtain ⟨⟩ := spec
    rw [hself]

lemma name_of_completeSpec_eq_self (h : completeSpec spec fallback = spec) :
    ∀ p ∈ spec.ports.getD [], (p.name.bind Text.nonBlank?).isSome = true := by
  unfold completeSpec at h
  split at h
  next p ports hports =>
    intro q hq
    have hmap : (p :: ports).map completePort = p :: ports :=
      Option.some.inj ((congrArg ServiceSpec.ports h).trans hports)
    rw [hports] at hq
    have hself : completePort q = q := List.map_inj_left.mp (hmap.trans (List.map_id _).symm) q hq
    rw [← hself]
    exact (completePort_completePort q).name
  next hports =>
    intro q hq
    cases hspec : spec.ports with
    | none =>
      rw [hspec] at hq
      cases hq
    | some l =>
      cases l with
      | nil =>
        rw [hspec] at hq
        cases hq
      | cons p ports => exact absurd hspec (hports p ports)

/-- Completing leaves ports with protocols, and with names unless they come from the fallback. -/
lemma portsFilled_completeSpec (hfallback : PortsFilled fallback.ports fallback.ports) :
    PortsFilled fallback.ports (completeSpec spec fallback).ports := by
  unfold completeSpec
  split
  next p ports hports =>
    refine ⟨fun hnil => (by cases hnil), fun q hq => ?_⟩
    obtain ⟨q, _, rfl⟩ := List.mem_map.mp hq
    exact (completePort_completePort q).protocol
  next => exact hfallback

/-- The service that the images call for, where there is one. -/
def declared? (c : Context) : Option Resource :=
  (declaration c).toOption.bind (·.service?)

/-- A named service; the one that is called like the declared one has its ports. -/
structure Completed (c : Context) (fallback : Option ServiceSpec) (r : Resource) : Prop where
  named : r.kind = .service → r.Named
  ports : ∀ f, fallback = some f → r.kind = .service → r.metadata.name = some (defaultName c) →
    ∃ spec, r.content = .service (some spec) ∧ PortsFilled f.ports spec.ports

/-- The ports of the service that is called like the declared one have names. -/
def PortsNamed (c : Context) (r : Resource) : Prop :=
  r.metadata.name = some (defaultName c) →
    ∀ p ∈ r.content.servicePorts.getD [], (p.name.bind Text.nonBlank?).isSome = true

lemma Completed.complete_eq_self {fallback : Option ServiceSpec} (h : Completed c fallback r)
    (hnames : fallback.isSome = true → PortsNamed c r) : complete c fallback r = r := by
  obtain ⟨m, content⟩ := r
  cases content with
  | service spec =>
    have hnamed : Naming.nameResource (defaultName c) _ = _ :=
      Naming.nameResource_eq_self (h.named rfl)
    cases fallback with
    | none => exact hnamed
    | some f =>
      rw [complete_service, hnamed]
      dsimp only
      split
      next hname =>
        obtain ⟨spec', hspec, hports⟩ := h.ports f rfl rfl hname
        cases hspec
        rw [Option.map_some, completeSpec_eq_self hports (hnames rfl hname)]
        rfl
      next => rfl
  | _ => rfl

/-- Only services are completed. -/
lemma completed_of_kind {fallback : Option ServiceSpec} (h : r.kind ≠ .service) :
    Completed c fallback r :=
  ⟨fun hkind => absurd hkind h, fun _ _ hkind => absurd hkind h⟩

lemma complete_of_kind {fallback : Option ServiceSpec} (h : r.kind ≠ .service) :
    complete c fallback r = r := by
  obtain ⟨m, content⟩ := r
  cases content with
  | service spec => exact absurd rfl h
  | _ => rfl

lemma exists_content_of_service (h : r.kind = .service) : ∃ spec, r.content = .service spec := by
  obtain ⟨m, content⟩ := r
  cases content with
  | service spec => exact ⟨spec, rfl⟩
  | _ => cases h

lemma completed_complete {fallback : Option ServiceSpec}
    (hname : Text.isBlank (defaultName c) = false)
    (hfallback : ∀ f, fallback = some f → PortsFilled f.ports f.ports) (r : Resource) :
    Completed c fallback (complete c fallback r) := by
  by_cases hkind : r.kind = .service
  · obtain ⟨m, content⟩ := r
    obtain ⟨spec, rfl⟩ := exists_content_of_service hkind
    have hnamed := Naming.named_nameResource hname ⟨m, .service spec⟩
    cases fallback with
    | none => exact ⟨fun _ => hnamed, fun f hf => by cases hf⟩
    | some f =>
      rw [complete_service]
      dsimp only
      split
      next =>
        refine ⟨fun _ => hnamed, fun f' hf _ _ => ⟨_, rfl, ?_⟩⟩
        cases hf
        cases spec with
        | none => exact hfallback f rfl
        | some spec => exact portsFilled_completeSpec (hfallback f rfl)
      next hother => exact ⟨fun _ => hnamed, fun _ _ _ hdefault => absurd hdefault hother⟩
  · rw [complete_of_kind hkind]
    exact completed_of_kind hkind

/-- Services with the same name and the same ports. -/
structure SameService (r s : Resource) : Prop where
  kind : s.kind = r.kind
  name : s.metadata.name = r.metadata.name
  ports : ∀ spec, r.content = .service (some spec) →
    ∃ spec', s.content = .service (some spec') ∧ spec'.ports = spec.ports

lemma SameService.refl (r : Resource) : SameService r r := ⟨rfl, rfl, fun spec h => ⟨spec, h, rfl⟩⟩

lemma SameService.trans {t : Resource} (h : SameService r s) (h' : SameService s t) :
    SameService r t where
  kind := h'.kind.trans h.kind
  name := h'.name.trans h.name
  ports spec hspec := by
    obtain ⟨spec', hspec', hports⟩ := h.ports spec hspec
    obtain ⟨spec'', hspec'', hports'⟩ := h'.ports spec' hspec'
    exact ⟨spec'', hspec'', hports'.trans hports⟩

lemma Completed.of_sameService {fallback : Option ServiceSpec} (h : SameService r s)
    (hr : Completed c fallback r) : Completed c fallback s where
  named hkind := by
    obtain ⟨name, hname, hblank⟩ := Resource.named_iff.mp (hr.named (h.kind ▸ hkind))
    exact Resource.named_of_name (h.name.trans hname) hblank
  ports f hf hkind hname := by
    obtain ⟨spec, hspec, hports⟩ := hr.ports f hf (h.kind ▸ hkind) (h.name ▸ hname)
    obtain ⟨spec', hspec', hsame⟩ := h.ports spec hspec
    exact ⟨spec', hspec', hsame ▸ hports⟩

/-! What the images declare. -/

lemma protocol_declarePorts (exposed : List Int32) (used : List String) (ports : List Int32) :
    ∀ p ∈ declarePorts exposed used ports, p.protocol = some "tcp" := by
  induction ports generalizing used with
  | nil => simp [declarePorts]
  | cons port rest ih => exact List.forall_mem_cons.mpr ⟨rfl, ih _⟩

lemma protocol_declaration {d : Config.ServiceDeclaration} (h : declaration c = .ok d) :
    ∀ p ∈ d.ports, p.protocol = some "tcp" := by
  obtain ⟨lists, hlists, h⟩ := Except.bind_eq_ok.mp h
  cases h
  intro p hp
  obtain ⟨ports, hports, hp⟩ := List.mem_flatten.mp hp
  obtain ⟨image, _, himage⟩ := Except.exists_of_mem_mapM hlists hports
  obtain ⟨mappings, _, himage⟩ := Except.bind_eq_ok.mp himage
  cases himage
  exact protocol_declarePorts _ [] _ p hp

/-- The declared service is called by the default name and has the ports that it falls back on. -/
lemma service?_declaration {d : Config.ServiceDeclaration} (h : declaration c = .ok d)
    {service : Resource} (hservice : d.service? = some service) :
    ∃ spec, service.metadata.name = some (defaultName c) ∧
      service.content = .service (some spec) ∧ PortsFilled spec.ports spec.ports := by
  have hname : d.name = some (defaultName c) := by
    obtain ⟨lists, _, h⟩ := Except.bind_eq_ok.mp h
    cases h
    rfl
  have hprotocol := protocol_declaration h
  unfold Config.ServiceDeclaration.service? at hservice
  split at hservice
  · cases hservice
  · cases hservice
    refine ⟨_, hname, rfl, fun _ => rfl, fun p hp => ?_⟩
    dsimp only at hp
    split at hp
    · cases hp
    · obtain ⟨q, hq, rfl⟩ := List.mem_map.mp hp
      dsimp only [Config.PortDeclaration.toServicePort]
      rw [hprotocol q hq]
      decide

lemma declared?_of_declaration {d : Config.ServiceDeclaration} (h : declaration c = .ok d) :
    declared? c = d.service? := by
  rw [declared?, h]
  rfl

lemma portsFilled_of_declaration {d : Config.ServiceDeclaration} (h : declaration c = .ok d)
    {f : ServiceSpec} (hf : d.service?.bind serviceSpec? = some f) :
    PortsFilled f.ports f.ports := by
  obtain ⟨service, hservice, hspec⟩ := Option.bind_eq_some_iff.mp hf
  obtain ⟨spec, _, hcontent, hports⟩ := service?_declaration h hservice
  rw [serviceSpec?, hcontent] at hspec
  cases hspec
  exact hports

lemma completed_of_declaration (hname : Text.isBlank (defaultName c) = false)
    {d : Config.ServiceDeclaration} (h : declaration c = .ok d) {service : Resource}
    (hservice : d.service? = some service) :
    service.kind = .service ∧ Completed c (d.service?.bind serviceSpec?) service := by
  obtain ⟨spec, hdefault, hcontent, hports⟩ := service?_declaration h hservice
  have hkind : service.kind = .service := by rw [Resource.kind, hcontent]; rfl
  refine ⟨hkind, fun _ => Resource.named_of_name hdefault hname, fun f hf _ _ => ?_⟩
  rw [hservice, Option.bind_some, serviceSpec?, hcontent] at hf
  cases hf
  exact ⟨spec, hcontent, hports⟩

/-- A service that is called like the declared one and stays as it is names its ports. -/
lemma portsNamed_of_complete {d : Config.ServiceDeclaration} (h : declaration c = .ok d)
    (hdeclared : (declared? c).isSome = true) (hkind : r.kind = .service)
    (hself : complete c (d.service?.bind serviceSpec?) r = r) : PortsNamed c r := by
  intro hname
  obtain ⟨service, hservice⟩ := Option.isSome_iff_exists.mp (declared?_of_declaration h ▸ hdeclared)
  obtain ⟨f, _, hcontent, _⟩ := service?_declaration h hservice
  obtain ⟨m, content⟩ := r
  obtain ⟨spec, rfl⟩ := exists_content_of_service hkind
  have hnamed : (Naming.nameResource (defaultName c) ⟨m, .service spec⟩).metadata.name =
      some (defaultName c) := by
    unfold Naming.nameResource
    split
    · rfl
    · exact hname
  rw [hservice, Option.bind_some, serviceSpec?, hcontent, complete_service] at hself
  dsimp only at hself
  rw [if_pos hnamed] at hself
  cases spec with
  | none => cases congrArg Resource.content hself
  | some spec =>
    have hspec : completeSpec spec f = spec := by
      have hcontent := congrArg Resource.content hself
      exact Option.some.inj (Content.service.inj hcontent)
    exact name_of_completeSpec_eq_self hspec

/-- An empty list of ports is left out. -/
lemma ports_ne_of_service? {d : Config.ServiceDeclaration} {f : ServiceSpec}
    (h : d.service?.bind serviceSpec? = some f) : f.ports ≠ some [] := by
  obtain ⟨service, hservice, hspec⟩ := Option.bind_eq_some_iff.mp h
  unfold Config.ServiceDeclaration.service? at hservice
  split at hservice
  next => cases hservice
  next =>
    cases hservice
    cases hspec
    dsimp only
    split
    next => exact nofun
    next hports => simpa using hports

end DefaultService

/-! ### Secrets -/

namespace RegistrySecrets

variable {c : Context} {r s : Resource}

/-- The server that a resource names. -/
def serverId? (r : Resource) : Option String :=
  r.metadata.annotations.bind (·.get? serverIdKey)

lemma serverId?_eq (r : Resource) :
    serverId? r = (r.metadata.annotations.getD ∅).get? serverIdKey := by
  unfold serverId?
  cases r.metadata.annotations <;> rfl

/-- A secret that names no configured server. -/
def Completed (c : Context) (r : Resource) : Prop :=
  r.kind = .secret → ∀ id, serverId? r = some id → c.project.server? id = none

lemma Completed.returns_self (h : Completed c r) : (complete c r).Returns r := by
  unfold complete
  split
  next secret id hsecret hid =>
    have hnone : c.project.server? id = none := by
      refine h ?_ id hid
      unfold Resource.kind
      rw [hsecret]
      rfl
    rw [hnone]
    exact Logged.returns_bind.mpr ⟨(), rfl, Logged.returns_pure.mpr rfl⟩
  next => exact Logged.returns_pure.mpr rfl

/-- A secret is filled, with the annotation taken away, or it stays. -/
lemma complete_cases (h : (complete c r).Returns s) :
    s = r ∧ Completed c r ∨ r.kind = .secret ∧ s.kind = .secret ∧ serverId? s = none ∧
      s.metadata.name = r.metadata.name := by
  unfold complete at h
  split at h
  next secret id hsecret hid =>
    split at h
    next server hserver =>
      cases Logged.returns_pure.mp h
      refine .inr ⟨?_, rfl, ?_, rfl⟩
      · unfold Resource.kind
        rw [hsecret]
        rfl
      · unfold serverId? fill
        dsimp only
        cases r.metadata.annotations with
        | none => rfl
        | some annotations => exact (SortedMap.get?_erase _ _ _).trans (if_pos rfl)
    next hserver =>
      obtain ⟨_, _, h⟩ := Logged.returns_bind.mp h
      cases Logged.returns_pure.mp h
      refine .inl ⟨rfl, fun _ id' hid' => ?_⟩
      cases hid.symm.trans hid'
      exact hserver
  next hother =>
    cases Logged.returns_pure.mp h
    refine .inl ⟨rfl, fun hkind id hid => ?_⟩
    obtain ⟨m, content⟩ := r
    cases content with
    | secret secret => exact absurd hid (hother secret id rfl)
    | _ => cases hkind

lemma exists_returns_complete (c : Context) (r : Resource) : ∃ s, (complete c r).Returns s := by
  unfold complete
  split
  · split
    · exact ⟨_, Logged.returns_pure.mpr rfl⟩
    · exact Logged.exists_returns_bind rfl ⟨r, Logged.returns_pure.mpr rfl⟩
  · exact ⟨r, Logged.returns_pure.mpr rfl⟩

lemma completed_of_returns (h : (complete c r).Returns s) : Completed c s := by
  obtain ⟨rfl, hr⟩ | ⟨_, _, hid, _⟩ := complete_cases h
  · exact hr
  · intro _ id hid'
    rw [hid] at hid'
    cases hid'

end RegistrySecrets
end Enricher
end Manifests
