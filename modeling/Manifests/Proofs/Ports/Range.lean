import Manifests.Proofs.Pods.Variables
import Manifests.Proofs.Ports.Emission
import Manifests.Proofs.Ports.RoundTrip

/-! Whether the numbers that a build without resources ends up with are those of ports.  A spec is
refused where a number does not fit into 32 bits, so that numbers beyond those of ports are emitted
like others. -/
namespace Manifests

/-! ### Specs -/

namespace PortMapping

variable {properties : SortedMap String} {spec : String} {error : Error}

lemma exists_fault_of_number {token : List Char} (h : number spec token = .error error) :
    ∃ fault, error = .port spec fault := by
  unfold number at h
  split at h
  · cases h
  · cases h
    exact ⟨_, rfl⟩

/-- What cannot be read is reported by its trimmed text. -/
lemma exists_fault_of_parse (h : parse properties spec = .error error) :
    ∃ fault, error = .port (Text.trim spec) fault := by
  unfold parse at h
  dsimp only at h
  split at h
  · cases h
    exact ⟨_, rfl⟩
  · split at h
    · obtain h | ⟨_, _, h⟩ := Except.bind_eq_error.mp h
      · exact exists_fault_of_number h
      · cases h
    · obtain h | ⟨_, _, h⟩ := Except.bind_eq_error.mp h
      · exact exists_fault_of_number h
      · cases h
    · obtain h | ⟨_, _, h⟩ := Except.bind_eq_error.mp h
      · exact exists_fault_of_number h
      · obtain h | ⟨_, _, h⟩ := Except.bind_eq_error.mp h
        · exact exists_fault_of_number h
        · cases h
    · cases h
      exact ⟨_, rfl⟩

/-- A numeral alone is a mapping if its number fits into 32 bits. -/
lemma parse_decimal (properties : SortedMap String) {text : String} {n : Int}
    (h : Text.IsDecimal text.toList n) : parse properties text =
      match Text.int32OfInt? n with
      | some port => .ok ⟨none, none, port, "tcp"⟩
      | none => .error (.port text (.number text)) := by
  have hplain := isPlain_of_isDecimal h
  have hprotocol : splitProtocol text.toList = (text.toList, "tcp") := by
    have hfinish : finish (text.toList ++ ending none) = _ := hplain.finish_eq (by simp)
    rwa [ending, Option.elim_none, List.append_nil, finish, hplain.rdropWhile_eq] at hfinish
  have hbreak : ¬text.toList.contains '\n' = true :=
    mt List.contains_iff_mem.mp (hplain.not_mem (by decide))
  have hnumber : Text.int32? text.toList = Text.int32OfInt? n := by
    rw [Text.int32?, h.int?_eq, Option.bind_some]
  unfold parse
  dsimp only
  rw [hplain.trimChars_eq, hprotocol]
  dsimp only
  rw [if_neg hbreak, Text.splitAt_of_not_mem (hplain.not_mem (by decide)), List.reverse_singleton]
  change (number (String.ofList text.toList) text.toList >>= fun port => _) = _
  unfold number
  rw [hplain.trimChars_eq, hnumber, String.ofList_toList]
  cases Text.int32OfInt? n <;> rfl

end PortMapping

/-! ### Failures -/

namespace Enricher.Context

/-- The error of a spec that cannot be read. -/
def Refuses (c : Context) (error : Error) : Prop :=
  ∃ image ∈ c.images, ∃ spec ∈ image.ports, PortMapping.parse c.project.properties spec =
    .error error ∧ ∃ fault, error = .port (Text.trim spec) fault

/-- An error of the controller that is to be added, because of its name or its environment. -/
def Obstructs (c : Context) (platform : Config.Platform) (error : Error) : Prop :=
  (DefaultController.addedKind? c platform).isSome = true ∧
    (ResourceName.check (DefaultController.completedPolicy c).controllerName "controller name" =
      .error error ∨ c.envDefaults = some (.error error))

end Enricher.Context

lemma Config.VolumeDeclaration.exists_returns_volumes (declarations : List VolumeDeclaration) :
    ∃ l, (volumes declarations).Returns l := by
  induction declarations with
  | nil => exact ⟨[], Logged.returns_pure.mpr rfl⟩
  | cons v rest ih =>
    obtain ⟨more, hmore⟩ := ih
    have hvolume : ∃ volume, v.volume?.Returns volume := by
      unfold volume?
      dsimp only
      split
      · exact Logged.exists_returns_bind rfl ⟨none, Logged.returns_pure.mpr rfl⟩
      · exact Logged.exists_returns_bind rfl ⟨none, Logged.returns_pure.mpr rfl⟩
      · exact ⟨_, Logged.returns_pure.mpr rfl⟩
    obtain ⟨volume, hvolume⟩ := hvolume
    exact Logged.exists_returns_bind hvolume
      (Logged.exists_returns_bind hmore ⟨_, Logged.returns_pure.mpr rfl⟩)

lemma Environment.fails_build {configured : SortedMap String} {provider : Provider} {error : Error}
    (h : (build configured provider).Fails error) : provider = some (.error error) := by
  have hvars : ∀ provided : SortedMap String,
      ¬(do return (← envVars (configured.fill provided).toList) ++ [namespaceVariable] :
        Logged (List EnvVar)).Fails error := by
    intro provided h
    obtain h | ⟨_, _, h⟩ := Logged.fails_bind.mp h
    · exact absurd h (returns_envVars _).not_fails
    · exact absurd h Logged.fails_pure
  unfold build at h
  split at h
  next =>
    obtain h | ⟨_, _, h⟩ := Logged.fails_bind.mp h
    · exact absurd h Logged.fails_pure
    · exact absurd h (hvars _)
  next outcome =>
    obtain h | ⟨_, _, h⟩ := Logged.fails_bind.mp h
    · exact congrArg some h
    · exact absurd h (hvars _)

namespace Blueprint

variable {b : Blueprint} {error : Error}

lemma exists_returns_keepMounts (volumes : List String) (container : String)
    (mounts : List VolumeMount) : ∃ kept, (keepMounts volumes container mounts).Returns kept := by
  induction mounts with
  | nil => exact ⟨[], Logged.returns_pure.mpr rfl⟩
  | cons mount rest ih =>
    rw [keepMounts]
    split
    · obtain ⟨kept, hkept⟩ := ih
      exact Logged.exists_returns_bind hkept ⟨_, Logged.returns_pure.mpr rfl⟩
    · exact Logged.exists_returns_bind rfl ih

lemma exists_returns_attach (volumes : List String) (x : Container) :
    ∃ new, (attach volumes x).Returns new := by
  unfold attach
  split
  · exact ⟨x, Logged.returns_pure.mpr rfl⟩
  next mounts _ =>
    obtain ⟨kept, hkept⟩ := exists_returns_keepMounts volumes x.name mounts
    exact Logged.exists_returns_bind hkept ⟨_, Logged.returns_pure.mpr rfl⟩

/-- A container fails by one of its specs or by the environment. -/
lemma fails_container {image : Config.Image} (h : (b.container image).Fails error) :
    (∃ spec ∈ image.ports, PortMapping.parse b.project.properties spec = .error error) ∨
      b.envDefaults = some (.error error) := by
  obtain h | ⟨_, _, h⟩ := Logged.fails_bind.mp h
  · obtain h | ⟨_, _, h⟩ := Except.bind_eq_error.mp h
    · exact .inl (Except.exists_of_mapM_eq_error h)
    · cases h
  · obtain h | ⟨_, _, h⟩ := Logged.fails_bind.mp h
    · exact .inr (Environment.fails_build h)
    · exact absurd h Logged.fails_pure

lemma fails_podTemplate {images : List Config.Image} (h : (b.podTemplate images).Fails error) :
    (∃ image ∈ images, ∃ spec ∈ image.ports,
      PortMapping.parse b.project.properties spec = .error error) ∨
      b.envDefaults = some (.error error) := by
  obtain h | ⟨volumes, _, h⟩ := Logged.fails_bind.mp h
  · obtain ⟨_, hvolumes⟩ := Config.VolumeDeclaration.exists_returns_volumes b.policy.volumes
    exact absurd h hvolumes.not_fails
  · obtain h | ⟨made, _, h⟩ := Logged.fails_bind.mp h
    · obtain ⟨image, himage, h⟩ := Logged.exists_of_fails_mapM h
      exact (fails_container h).imp_left fun hspec => ⟨image, himage, hspec⟩
    · obtain h | ⟨_, _, h⟩ := Logged.fails_bind.mp h
      · obtain ⟨_, hattached⟩ := Logged.exists_returns_mapM
          (exists_returns_attach (volumes.map (·.name))) made
        exact absurd h hattached.not_fails
      · exact absurd h Logged.fails_pure

lemma fails_controller? {kind : Kind} {images : List Config.Image}
    (h : (b.controller? kind images).Fails error) :
    (∃ image ∈ images, ∃ spec ∈ image.ports,
      PortMapping.parse b.project.properties spec = .error error) ∨
      ResourceName.check b.policy.controllerName "controller name" = .error error ∨
        b.envDefaults = some (.error error) := by
  unfold controller? at h
  split at h
  next =>
    obtain h | ⟨_, _, h⟩ := Logged.fails_bind.mp h
    · exact .inr (.inl h)
    · obtain h | ⟨_, _, h⟩ := Logged.fails_bind.mp h
      · exact (fails_podTemplate h).imp_right .inr
      · exact absurd h Logged.fails_pure
  next => exact absurd h Logged.fails_pure

end Blueprint

namespace Enricher

variable {c : Context} {platform : Config.Platform} {error : Error}

lemma Context.refuses_of_parse (h : ∃ image ∈ c.images, ∃ spec ∈ image.ports,
    PortMapping.parse c.project.properties spec = .error error) : c.Refuses error := by
  obtain ⟨image, himage, spec, hspec, hparse⟩ := h
  exact ⟨image, himage, spec, hspec, hparse, PortMapping.exists_fault_of_parse hparse⟩

/-- The enricher of controllers fails like a pod template, or by the name of what it adds. -/
lemma DefaultController.fails_addMissing {before : Collection}
    (h : ((enricher c).addMissing platform before).Fails error) :
    c.Refuses error ∨ (before.hasKind declaringKinds = true ∧ c.envDefaults = some (.error error)) ∨
      (before.hasKind declaringKinds = false ∧ c.Obstructs platform error) := by
  dsimp only [enricher] at h
  split at h
  next hdeclared =>
    obtain h | ⟨_, _, h⟩ := Logged.fails_bind.mp h
    · exact (Blueprint.fails_podTemplate h).imp Context.refuses_of_parse fun henv =>
        .inl ⟨hdeclared, henv⟩
    · exact absurd h Logged.fails_pure
  next hdeclared =>
    obtain h | ⟨kind, hkind, h⟩ := Logged.fails_bind.mp h
    · exact absurd h (returns_controllerKind?.mpr rfl).not_fails
    · rw [returns_controllerKind?] at hkind
      cases kind with
      | none => exact absurd h Logged.fails_pure
      | some kind =>
        obtain h | ⟨_, _, h⟩ := Logged.fails_bind.mp h
        · cases h
        · obtain h | ⟨_, _, h⟩ := Logged.fails_bind.mp h
          · exact (Blueprint.fails_controller? h).imp Context.refuses_of_parse fun h =>
              .inr ⟨by simpa using hdeclared, by rw [hkind]; rfl, h⟩
          · exact absurd h Logged.fails_pure

lemma DefaultService.refuses_of_addMissing {before : Collection}
    (h : ((enricher c).addMissing platform before).Fails error) : c.Refuses error := by
  cases hd : declaration c with
  | ok d => exact absurd h (returns_addMissing platform hd before).not_fails
  | error error' =>
    obtain h | ⟨d, hd', _⟩ := Logged.fails_bind.mp h
    · obtain h | ⟨_, _, h⟩ := Except.bind_eq_error.mp h
      · obtain ⟨image, himage, h⟩ := Except.exists_of_mapM_eq_error h
        obtain h | ⟨_, _, h⟩ := Except.bind_eq_error.mp h
        · obtain ⟨spec, hspec, h⟩ := Except.exists_of_mapM_eq_error h
          exact Context.refuses_of_parse ⟨image, himage, spec, hspec, h⟩
        · cases h
      · cases h
    · cases hd.symm.trans hd'

end Enricher

lemma StandardEnricher.fails_addAll {c : Enricher.Context} {platform : Config.Platform}
    {error : Error}
    (h : (addAll c platform [naming, defaultController, defaultService] []).Fails error) :
    c.Refuses error ∨ c.Obstructs platform error := by
  rw [addAll_front_nil] at h
  obtain h | ⟨made, _, h⟩ := Logged.fails_bind.mp h
  · obtain hrefuses | ⟨hdeclared, _⟩ | ⟨_, hobstructs⟩ :=
      Enricher.DefaultController.fails_addMissing h
    · exact .inl hrefuses
    · cases hdeclared
    · exact .inr hobstructs
  · exact .inl (Enricher.DefaultService.refuses_of_addMissing h)

/-! ### Whole enrichments -/

/-- A number that a port can have. -/
def IsPort (n : Int32) : Prop := 1 ≤ n.toInt ∧ n.toInt ≤ 65535

instance (n : Int32) : Decidable (IsPort n) :=
  inferInstanceAs (Decidable (1 ≤ n.toInt ∧ n.toInt ≤ 65535))

namespace Enricher.Context

variable {c : Context} {platform : Config.Platform}

/-- Everything that is bound is a port: container ports, and host ports where a controller has
them. -/
def BindsPorts (c : Context) (platform : Config.Platform) : Prop :=
  ∀ m, c.Reads m → IsPort m.containerPort ∧
    ((DefaultController.addedKind? c platform).isSome = true → ∀ port ∈ m.hostPort, IsPort port)

lemma forall_emits_isPort_iff :
    (∀ n, c.Emits platform n → IsPort n) ↔ c.BindsPorts platform := by
  constructor
  · intro h m read
    exact ⟨h _ (.container read), fun controller port bound => h port (.host read bound controller)⟩
  · rintro h _ (⟨read⟩ | ⟨read, bound, controller⟩ | ⟨read, alternative⟩)
    · exact (h _ read).1
    · exact (h _ read).2 controller _ bound
    · exact ⟨by decide, by decide⟩

end Enricher.Context

namespace Enrichment

open Enricher (Context)

variable {e : Enrichment} {platform : Config.Platform} {after : Collection}

lemma emits_enrich (hruns : e.Runs StandardEnricher.all)
    (h : (e.enrich platform []).Returns after) :
    e.context.PortsRead ∧ ∀ n, after.Uses n ↔ e.context.Emits platform n := by
  obtain ⟨added, hadded, hadapted⟩ := hruns.returns_enrich.mp h
  obtain ⟨hread, hemits⟩ := StandardEnricher.emits_of_addAll_all hadded
  refine ⟨hread, fun n => ?_⟩
  rw [StandardEnricher.uses_of_adaptAll hadapted, Labelling.uses_map_labelResource, hemits]

lemma fails_enrich (hruns : e.Runs StandardEnricher.all) (hread : ¬e.context.PortsRead) :
    ∃ error, (e.enrich platform []).Fails error ∧
      (e.context.Refuses error ∨ e.context.Obstructs platform error) := by
  have hadd : e.addMissing platform [] = StandardEnricher.addAll e.context platform _ [] >>= _ :=
    hruns.addMissing.trans StandardEnricher.addAll_all
  have hfront : ∀ made, ¬(StandardEnricher.addAll e.context platform
      [.naming, .defaultController, .defaultService] []).Returns made :=
    fun made hmade => hread (StandardEnricher.emits_of_addAll hmade).1
  cases houtcome : (StandardEnricher.addAll e.context platform
      [.naming, .defaultController, .defaultService] []).outcome with
  | ok made => exact absurd houtcome (hfront made)
  | error error =>
    refine ⟨error, ?_, StandardEnricher.fails_addAll houtcome⟩
    refine Logged.fails_bind.mpr (.inl ?_)
    rw [hadd]
    exact Logged.fails_bind.mpr (.inl houtcome)

/-- **What is emitted are the numbers that are read.**  They are ports just if all that is bound is.
A spec that cannot be read makes the enrichment fail, if nothing else does before; numerals alone
are read if they fit into 32 bits. -/
theorem emits_enrich_nil {files : FileTree} {b : Config.Build} (hb : b.enricher.IsPlain)
    (he : ofContext files StandardEnricher.registry (.ofBuild files b) = .ok e)
    (platform : Config.Platform) :
    (∀ after, (e.enrich platform []).Returns after →
      (∀ n, after.Uses n ↔ (Context.ofBuild files b).Emits platform n) ∧
      ((∀ n, after.Uses n → IsPort n) ↔ (Context.ofBuild files b).BindsPorts platform)) ∧
    (¬(Context.ofBuild files b).PortsRead → ∃ error, (e.enrich platform []).Fails error ∧
      ((Context.ofBuild files b).Refuses error ∨
        (Context.ofBuild files b).Obstructs platform error)) ∧
    ∀ text n, Text.IsDecimal text.toList n →
      ((∃ m, PortMapping.parse b.project.properties text = .ok m) ↔
        -2147483648 ≤ n ∧ n ≤ 2147483647) := by
  rw [ofContext_of_isPlain (c := .ofBuild files b) hb] at he
  cases he
  have hruns := runs_all_of_isPlain (c := .ofBuild files b) hb
  refine ⟨fun after h => ?_, fun hread => fails_enrich hruns hread, fun text n hdecimal => ?_⟩
  · have hemits := (emits_enrich hruns h).2
    refine ⟨hemits, ?_⟩
    rw [← Context.forall_emits_isPort_iff]
    exact forall_congr' fun n => imp_congr_left (hemits n)
  · rw [PortMapping.parse_decimal _ hdecimal, Text.int32OfInt?]
    by_cases hn : -2147483648 ≤ n ∧ n ≤ 2147483647
    · rw [if_pos hn]
      exact iff_of_true ⟨_, rfl⟩ hn
    · rw [if_neg hn]
      refine iff_of_false ?_ hn
      rintro ⟨_, hm⟩
      cases hm

/-- An image that exposes one port. -/
def binding (spec : String) : Config.Build where
  project := { (default : Config.Project) with artifactId := "shop", groupId := "org" }
  images := [{ (default : Config.Image) with
    name := some "org/web", build := some { (default : Config.ImageBuild) with ports := [spec] } }]
  resources := default
  enricher := default
  platform := .kubernetes

def bindingEnrichment (spec : String) : Enrichment :=
  ⟨.ofBuild default (binding spec),
    StandardEnricher.all.map (StandardEnricher.enricher (.ofBuild default (binding spec)))⟩

lemma ofContext_binding (spec : String) :
    ofContext default StandardEnricher.registry (.ofBuild default (binding spec)) =
      .ok (bindingEnrichment spec) :=
  ofContext_of_isPlain (c := .ofBuild default (binding spec)) ⟨rfl, rfl, rfl⟩

/-- A number beyond those of ports is emitted, and one beyond 32 bits is refused. -/
theorem emits_enrich_nil_binding :
    (binding "70000").enricher.IsPlain ∧ (binding "3000000000").enricher.IsPlain ∧
    (∃ after, ((bindingEnrichment "70000").enrich .kubernetes []).Returns after ∧
      after.Uses 70000 ∧ ¬IsPort 70000) ∧
    ∃ fault, ((bindingEnrichment "3000000000").enrich .kubernetes []).Fails
      (.port "3000000000" fault) := by
  have hplain : ∀ spec, (binding spec).enricher.IsPlain := fun _ => ⟨rfl, rfl, rfl⟩
  refine ⟨hplain _, hplain _, ?_, ?_⟩
  · obtain ⟨after, h⟩ : ∃ after,
        ((bindingEnrichment "70000").enrich .kubernetes []).Returns after :=
      Logged.exists_returns (by decide +kernel)
    have hemits := ((emits_enrich_nil (hplain _) (ofContext_binding _) .kubernetes).1 after h).1
    have hread : (Context.ofBuild default (binding "70000")).Reads ⟨none, none, 70000, "tcp"⟩ :=
      ⟨_, List.mem_cons_self, "70000", List.mem_cons_self, rfl⟩
    exact ⟨after, h, (hemits 70000).mpr (.container hread), by decide⟩
  · have hspec : ¬(Context.ofBuild default (binding "3000000000")).PortsRead := by
      intro hread
      obtain ⟨m, hm⟩ := hread _ List.mem_cons_self "3000000000" List.mem_cons_self
      cases hm
    obtain ⟨error, h, hrefuses | ⟨_, hname | henv⟩⟩ :=
      (emits_enrich_nil (hplain _) (ofContext_binding _) .kubernetes).2.1 hspec
    · obtain ⟨image, himage, spec, hspec, _, fault, rfl⟩ := hrefuses
      cases List.mem_singleton.mp himage
      cases List.mem_singleton.mp hspec
      exact ⟨fault, h⟩
    · cases hname
    · cases henv

end Enrichment
end Manifests
