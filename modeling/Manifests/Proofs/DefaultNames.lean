import Manifests.Proofs.Distinct
import Manifests.Proofs.LetterCase
import Manifests.Proofs.Pods.Names
import Manifests.Proofs.Ports.Range
import Manifests.Proofs.Repetition.Finishing

/-! The name that resources get from their project.  It is cut off before it is put into lower case,
which makes two characters of a dotted capital and leaves the capitals without a small letter; so it
may be too long, and it may be refused, which is the only way in which a name makes an enrichment
fail. -/
namespace Manifests

namespace Config.Project

variable {p : Project}

/-- The characters that the default name is made of. -/
def keptCharacters (p : Project) : List Char := p.artifactId.toList.take maxNameLength

lemma toList_defaultResourceName :
    p.defaultResourceName.toList = Text.LetterCase.lowerAfter [] p.keptCharacters := by
  unfold defaultResourceName Text.lower
  rw [String.toList_ofList, String.toList_ofList]
  rfl

lemma length_defaultResourceName :
    p.defaultResourceName.length = p.keptCharacters.length + p.keptCharacters.count 'İ' := by
  rw [← String.length_toList, toList_defaultResourceName, Text.LetterCase.length_lowerAfter]

lemma check_defaultResourceName_iff (hp : Text.isBlank p.defaultResourceName = false)
    (what : String) :
    ResourceName.check (some p.defaultResourceName) what = .ok p.defaultResourceName ↔
      ∀ c ∈ p.keptCharacters, ¬Text.IsUnpaired c := by
  have hupper : ResourceName.firstUpper? 0 p.defaultResourceName.toList = none ↔
      ∀ c ∈ p.keptCharacters, ¬Text.IsUnpaired c := by
    rw [ResourceName.firstUpper?_eq_none_iff, toList_defaultResourceName,
      Text.LetterCase.forall_lowerAfter_iff]
  rw [← hupper]
  unfold ResourceName.check
  dsimp only
  rw [hp, if_neg Bool.false_ne_true]
  cases ResourceName.firstUpper? 0 p.defaultResourceName.toList with
  | none => simp
  | some found => simp

end Config.Project

/-- A check fails because of the name. -/
lemma ResourceName.exists_fault_of_check {value : Option String} {what : String} {error : Error}
    (h : check value what = .error error) : ∃ fault, error = .resourceName fault := by
  unfold check at h
  split at h
  · cases h
    exact ⟨_, rfl⟩
  · split at h
    · cases h
      exact ⟨_, rfl⟩
    · split at h
      · cases h
        exact ⟨_, rfl⟩
      · cases h

/-! ### Failures that are not about names -/

lemma EnvironmentSchema.load_ne_resourceName (files : FileTree) (path : String)
    (fault : NameFault) : load files path ≠ .error (.resourceName fault) := by
  unfold load parse
  split
  · split
    · dsimp only
      split <;> exact nofun
    · exact nofun
  · exact nofun

namespace Config.ProbeDeclaration

lemma build_ne_resourceName (d : ProbeDeclaration) (fault : NameFault) :
    d.build ≠ .error (.resourceName fault) := by
  intro h
  obtain h | ⟨_, _, h⟩ := Except.bind_eq_error.mp h
  · unfold action? at h
    split at h
    · obtain h | ⟨_, _, h⟩ := Except.bind_eq_error.mp h
      · unfold httpGetAction at h
        split at h <;> cases h
      · cases h
    · obtain h | ⟨_, _, h⟩ := Except.bind_eq_error.mp h
      · unfold execAction at h
        split at h <;> cases h
      · cases h
    · cases h
    · cases h
  · cases h

lemma buildOptional_ne_resourceName (d : Option ProbeDeclaration) (fault : NameFault) :
    buildOptional d ≠ .error (.resourceName fault) := by
  cases d with
  | none => exact nofun
  | some d => exact d.build_ne_resourceName fault

end Config.ProbeDeclaration

namespace Enricher

variable {c : Context} {before : Collection} {fault : NameFault}

lemma HealthChecks.exists_returns_complete (liveness readiness : Option Probe) (r : Resource) :
    ∃ s, (complete liveness readiness r).Returns s :=
  ⟨_, returns_complete.mpr rfl⟩

lemma HealthChecks.not_fails_resourceName :
    ¬(addMissing c before).Fails (.resourceName fault) := by
  intro h
  obtain h | ⟨liveness, _, h⟩ := Logged.fails_bind.mp h
  · exact Config.ProbeDeclaration.buildOptional_ne_resourceName _ _ h
  · obtain h | ⟨readiness, _, h⟩ := Logged.fails_bind.mp h
    · exact Config.ProbeDeclaration.buildOptional_ne_resourceName _ _ h
    · split at h
      · exact Logged.fails_pure h
      · obtain ⟨r, _, hr⟩ := Logged.exists_of_fails_mapM h
        obtain ⟨s, hs⟩ := exists_returns_complete liveness readiness r
        exact hs.not_fails hr

end Enricher

namespace StandardEnricher

variable {c : Enricher.Context} {platform : Config.Platform} {e : StandardEnricher}
  {steps : List StandardEnricher} {before : Collection} {fault : NameFault}

/-- Only the name of a controller makes an enricher fail because of a name. -/
lemma check_of_fails_addMissing (henv : c.envDefaults ≠ some (.error (.resourceName fault)))
    (h : ((e.enricher c).addMissing platform before).Fails (.resourceName fault)) :
    ResourceName.check (Enricher.DefaultController.completedPolicy c).controllerName
      "controller name" = .error (.resourceName fault) := by
  cases e with
  | defaultController =>
    obtain ⟨_, _, _, _, _, _, hport⟩ | ⟨_, henv'⟩ | ⟨_, _, hcheck | henv'⟩ :=
      Enricher.DefaultController.fails_addMissing h
    · cases hport
    · exact absurd henv' henv
    · exact hcheck
    · exact absurd henv' henv
  | defaultService =>
    obtain ⟨_, _, _, _, _, _, hport⟩ := Enricher.DefaultService.refuses_of_addMissing h
    cases hport
  | images =>
    obtain ⟨after, hafter, _⟩ := Enricher.Images.names_addMissing c platform before
    exact absurd h hafter.not_fails
  | healthChecks => exact absurd h Enricher.HealthChecks.not_fails_resourceName
  | registrySecrets =>
    obtain ⟨r, _, hr⟩ := Logged.exists_of_fails_mapM h
    obtain ⟨s, hs⟩ := Enricher.RegistrySecrets.exists_returns_complete c r
    exact absurd hr hs.not_fails
  | naming | projectLabels | podAnnotations | volumePermissions | imageTriggers =>
    exact absurd h Logged.fails_pure

end StandardEnricher

namespace Enricher.Context

/-- No controller name is configured, but for blank ones. -/
structure LeavesNameOpen (c : Context) : Prop where
  policy : ∀ name, c.policy.controllerName = some name → Text.isBlank name = true
  setting : ∀ name, c.text? DefaultController.name DefaultController.nameKey = some name →
    Text.isBlank name = true

lemma LeavesNameOpen.addedName_eq {c : Context} (h : c.LeavesNameOpen) :
    DefaultController.addedName c = c.project.defaultResourceName := by
  have hpolicy : (c.policy.controllerName.filter fun n => !Text.isBlank n) = none :=
    Option.filter_eq_none_iff.mpr fun name hname => by simp [h.policy name hname]
  have hsetting : ((c.text? DefaultController.name DefaultController.nameKey).filter
      (!Text.isBlank ·)) = none :=
    Option.filter_eq_none_iff.mpr fun name hname => by simp [h.setting name hname]
  rw [DefaultController.addedName, hpolicy, Option.getD_none, DefaultController.defaultName,
    resourceName, hsetting, Option.getD_none]

end Enricher.Context

namespace Enrichment

open Enricher.DefaultController (declaringKinds addedKind? addedName)

variable {e : Enrichment} {steps : List StandardEnricher} {platform : Config.Platform}
  {before : Collection} {fault : NameFault}

lemma check_of_fails_enrich (hruns : e.Runs steps)
    (henv : e.context.envDefaults ≠ some (.error (.resourceName fault)))
    (h : (e.enrich platform before).Fails (.resourceName fault)) :
    ResourceName.check (some (addedName e.context)) "controller name" =
      .error (.resourceName fault) := by
  rw [← Enricher.DefaultController.controllerName_completedPolicy]
  obtain h | ⟨added, _, h⟩ := Logged.fails_bind.mp h
  · rw [hruns.addMissing] at h
    obtain ⟨step, _, d, hstep⟩ := Logged.exists_of_fails_foldlM h
    exact StandardEnricher.check_of_fails_addMissing henv hstep
  · obtain h | ⟨labelled, _, h⟩ := Logged.fails_bind.mp h
    · rw [hruns.label] at h
      cases h
    · rw [hruns.adapt] at h
      obtain ⟨_, hvolume⟩ := StandardEnricher.noMount_of_adaptAll h
      cases hvolume

/-- Where all enrichers run and no controller is declared, the name of the added one is checked
before anything else can fail. -/
lemma fails_enrich_of_check {error : Error} (hruns : e.Runs StandardEnricher.all)
    (hnone : before.hasKind declaringKinds = false)
    (hkind : (addedKind? e.context platform).isSome = true)
    (hcheck : ResourceName.check (some (addedName e.context)) "controller name" = .error error) :
    (e.enrich platform before).Fails error := by
  obtain ⟨kind, hkind⟩ := Option.isSome_iff_exists.mp hkind
  refine Logged.fails_bind.mpr (.inl ?_)
  rw [hruns.addMissing]
  have hnamed : Collection.hasKind (before.map (Enricher.Naming.nameResource
      (e.context.resourceName Enricher.Naming.name Enricher.Naming.nameKey))) declaringKinds =
      false := by
    rw [Collection.hasKind_of_forall₂ (StandardEnricher.forall₂_map fun r => ?_), hnone]
    exact congrArg Content.kind (Enricher.Naming.content_nameResource _ r)
  -- The resources are named first, which cannot fail, and then the controller is made.
  refine Logged.fails_bind.mpr (.inr ⟨_, Logged.returns_pure.mpr rfl, ?_⟩)
  refine Logged.fails_bind.mpr (.inl ?_)
  change Logged.Fails (if _ then _ else _) error
  rw [if_neg (by simp [hnamed])]
  refine Logged.fails_bind.mpr
    (.inr ⟨_, Enricher.DefaultController.returns_controllerKind?.mpr hkind, ?_⟩)
  refine Logged.fails_bind.mpr (.inr ⟨(), rfl, Logged.fails_bind.mpr (.inl ?_)⟩)
  rw [Blueprint.controller?,
    if_pos (Enricher.DefaultController.isController_of_addedKind? hkind)]
  refine Logged.fails_bind.mpr (.inl (Logged.fails_ofExcept.mpr ?_))
  change ResourceName.check (Enricher.DefaultController.completedPolicy _).controllerName _ = _
  rw [Enricher.DefaultController.controllerName_completedPolicy, hcheck]

/-- **When the name that a build gets from its project is usable.**  It is as long as what is kept
of the artifact id, with its dotted capitals counted twice.  A capital without a small letter makes
the check refuse it, and only that makes an enrichment fail because of a name; it does so where all
enrichers run and add a controller. -/
theorem usable_defaultName {files : FileTree} {b : Config.Build} (hruns : e.Runs steps)
    (he : e.context = .ofBuild files b) (hopen : e.context.LeavesNameOpen) :
    b.project.defaultResourceName.length =
      b.project.keptCharacters.length + b.project.keptCharacters.count 'İ' ∧
    (Text.isBlank b.project.defaultResourceName = false →
      (∀ what, ResourceName.check (some b.project.defaultResourceName) what =
        .ok b.project.defaultResourceName ↔ ∀ c ∈ b.project.keptCharacters, ¬Text.IsUnpaired c) ∧
      (∀ platform before fault, (e.enrich platform before).Fails (.resourceName fault) →
        ∃ c ∈ b.project.keptCharacters, Text.IsUnpaired c) ∧
      (steps = StandardEnricher.all → ∀ platform before, before.hasKind declaringKinds = false →
        (addedKind? e.context platform).isSome = true →
        (∃ c ∈ b.project.keptCharacters, Text.IsUnpaired c) →
        ∃ fault, (e.enrich platform before).Fails (.resourceName fault))) := by
  refine ⟨Config.Project.length_defaultResourceName, fun hname => ?_⟩
  have hadded : addedName e.context = b.project.defaultResourceName := by
    rw [hopen.addedName_eq, he]
    rfl
  have hcheck := Config.Project.check_defaultResourceName_iff hname
  refine ⟨hcheck, ?fails, ?refused⟩
  case fails =>
    intro platform before fault h
    have henv : e.context.envDefaults ≠ some (.error (.resourceName fault)) := by
      rw [he]
      intro henv
      obtain ⟨path, _, hload⟩ := Option.map_eq_some_iff.mp henv
      exact EnvironmentSchema.load_ne_resourceName files path fault hload
    have hrefused := check_of_fails_enrich hruns henv h
    rw [hadded] at hrefused
    by_contra hnone
    have hpaired : ∀ c ∈ b.project.keptCharacters, ¬Text.IsUnpaired c :=
      fun c hc hunpaired => hnone ⟨c, hc, hunpaired⟩
    rw [(hcheck _).mpr hpaired] at hrefused
    cases hrefused
  case refused =>
    rintro hall platform before hnone hkind ⟨c, hc, hunpaired⟩
    cases hresult : ResourceName.check (some (addedName e.context)) "controller name" with
    | ok name =>
      have hsame := (ResourceName.check_eq_ok hresult).1
      rw [← Option.some.inj hsame, hadded, hcheck] at hresult
      exact absurd hunpaired (hresult c hc)
    | error error =>
      obtain ⟨fault, rfl⟩ := ResourceName.exists_fault_of_check hresult
      exact ⟨fault, fails_enrich_of_check (hall ▸ hruns) hnone hkind hresult⟩

/-- A build that configures no names. -/
def calledLike (artifactId : String) : Config.Build where
  project := { (default : Config.Project) with artifactId, groupId := "org" }
  images := []
  resources := default
  enricher := default
  platform := .kubernetes

def enrichmentLike (artifactId : String) : Enrichment :=
  ⟨.ofBuild default (calledLike artifactId),
    StandardEnricher.all.map (StandardEnricher.enricher (.ofBuild default (calledLike artifactId)))⟩

/-- A name of twice the length, and one that is refused. -/
theorem usable_defaultName_capitals :
    (calledLike (String.ofList (List.replicate 63 'İ'))).project.defaultResourceName.length = 126 ∧
    ∃ fault, ((enrichmentLike "𝐀").enrich .kubernetes []).Fails (.resourceName fault) := by
  have hruns : ∀ artifactId, (enrichmentLike artifactId).Runs StandardEnricher.all :=
    fun artifactId => runs_all_of_isPlain (c := .ofBuild default (calledLike artifactId))
      ⟨rfl, rfl, rfl⟩
  have hopen : ∀ artifactId, (enrichmentLike artifactId).context.LeavesNameOpen :=
    fun artifactId => ⟨nofun, nofun⟩
  constructor
  · rw [(usable_defaultName (hruns _) rfl (hopen _)).1]
    decide +kernel
  · obtain ⟨_, _, hfails⟩ :=
      (usable_defaultName (hruns "𝐀") rfl (hopen _)).2 (by decide +kernel)
    apply hfails rfl .kubernetes [] rfl (by decide +kernel)
    exact ⟨'𝐀', by decide +kernel, by decide +kernel⟩

end Enrichment
end Manifests
