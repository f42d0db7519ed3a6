import Manifests.Proofs.Distinct

/-! Names for the resources that have none.  The first enricher of a run that has a name for the
kind of a resource decides, and what is appended has a name from the start; so the enricher of names
may run at any place. -/
namespace Manifests

namespace Enricher.Context

variable {c : Context} {enricher : String} {key : Key} {name : String}

/-- The name that a setting gives, or the one of the project where it gives none. -/
inductive Chooses (c : Context) (enricher : String) (key : Key) : String → Prop
  | setting {name : String} (given : c.text? enricher key = some name)
      (named : Text.isBlank name = false) : Chooses c enricher key name
  | project (ungiven : ∀ name, c.text? enricher key = some name → Text.isBlank name = true) :
      Chooses c enricher key c.project.defaultResourceName

lemma chooses_resourceName (c : Context) (enricher : String) (key : Key) :
    c.Chooses enricher key (c.resourceName enricher key) := by
  unfold resourceName
  cases h : (c.text? enricher key).filter (!Text.isBlank ·) with
  | none =>
    apply Chooses.project
    intro name hname
    rw [hname] at h
    simpa [Option.filter] using h
  | some name =>
    obtain ⟨hgiven, hnamed⟩ := Option.filter_eq_some_iff.mp h
    exact .setting hgiven (by simpa using hnamed)

end Enricher.Context

namespace Resource

variable {given first second : Kind → Option String} {r s t : Resource}

/-- A resource keeps its name, or gets the one that is given for its kind. -/
structure NamedBy (given : Kind → Option String) (r s : Resource) : Prop where
  kind : s.kind = r.kind
  own : r.Named → s.metadata.name = r.metadata.name
  given : ¬r.Named → s.metadata.name = (given r.kind).or r.metadata.name

lemma NamedBy.of_name {given : Kind → Option String} (hgiven : given r.kind = none)
    (hkind : s.kind = r.kind) (hname : s.metadata.name = r.metadata.name) : NamedBy given r s where
  kind := hkind
  own _ := hname
  given _ := by rw [hname, hgiven, Option.none_or]

lemma named_congr (h : s.metadata.name = r.metadata.name) : s.Named ↔ r.Named := by
  unfold Named name?
  rw [h]

/-- A name that was given stays. -/
lemma NamedBy.trans (h : NamedBy first r s) (h' : NamedBy second s t)
    (hfirst : ∀ name, first r.kind = some name → Text.isBlank name = false) :
    NamedBy (fun kind => (first kind).or (second kind)) r t where
  kind := h'.kind.trans h.kind
  own hr := by
    have hname := h.own hr
    rw [h'.own ((named_congr hname).mpr hr), hname]
  given hr := by
    have hname := h.given hr
    cases hgiven : first r.kind with
    | none =>
      rw [hgiven, Option.none_or] at hname
      rw [h'.given (mt (named_congr hname).mp hr), h.kind, hname, Option.none_or]
    | some name =>
      rw [hgiven, Option.some_or] at hname
      rw [h'.own (named_of_name hname (hfirst name hgiven)), hname, Option.some_or, Option.some_or]

end Resource

namespace StandardEnricher

variable {c : Enricher.Context} {platform : Config.Platform} {e : StandardEnricher}
  {steps : List StandardEnricher} {r s : Resource} {before after : Collection}

/-! ### One enricher -/

/-- The name that an enricher has for the resources of a kind that have none. -/
def givenName? (c : Enricher.Context) : StandardEnricher → Kind → Option String
  | naming, _ => some (c.resourceName Enricher.Naming.name Enricher.Naming.nameKey)
  | defaultService, .service => some (Enricher.DefaultService.defaultName c)
  | _, _ => none

lemma isBlank_givenName? (hdefault : Text.isBlank c.project.defaultResourceName = false)
    {kind : Kind} {name : String} (h : givenName? c e kind = some name) :
    Text.isBlank name = false := by
  unfold givenName? at h
  split at h
  · cases h
    exact Enricher.Context.isBlank_resourceName hdefault _ _
  · cases h
    exact Enricher.Context.isBlank_resourceName hdefault _ _
  · cases h

lemma namedBy_nameResource {given : Kind → Option String} {name : String}
    (h : given r.kind = some name) : r.NamedBy given (Enricher.Naming.nameResource name r) where
  kind := by
    unfold Resource.kind
    rw [Enricher.Naming.content_nameResource]
  own hr := by rw [Enricher.Naming.nameResource_eq_self hr]
  given hr := by
    unfold Resource.Named at hr
    rw [Bool.not_eq_true, Option.isSome_eq_false_iff] at hr
    rw [h, Option.some_or, Enricher.Naming.nameResource, if_pos hr]
    rfl

lemma namedBy_completeService {fallback : Option ServiceSpec} (hkind : r.kind = .service) :
    r.NamedBy (givenName? c defaultService) (Enricher.DefaultService.complete c fallback r) := by
  obtain ⟨m, content⟩ := r
  cases content with
  | service spec =>
    have hnamed : Resource.NamedBy (givenName? c defaultService) ⟨m, .service spec⟩
        (Enricher.Naming.nameResource (Enricher.DefaultService.defaultName c) ⟨m, .service spec⟩) :=
      namedBy_nameResource rfl
    cases fallback with
    | none => exact hnamed
    | some fallback =>
      rw [Enricher.DefaultService.complete_service]
      dsimp only
      split
      · exact { kind := rfl, own := hnamed.own, given := hnamed.given }
      · exact hnamed
  | _ => cases hkind

/-- Only two enrichers change names, and one of them only those of services. -/
lemma name_of_completes (hnaming : e ≠ naming) (hservice : e = defaultService → r.kind ≠ .service)
    (h : e.Completes c r s) : s.metadata.name = r.metadata.name := by
  cases e with
  | naming => exact absurd rfl hnaming
  | defaultController =>
    obtain rfl | ⟨t, _, rfl⟩ := h
    · rfl
    · unfold Enricher.DefaultController.complete Enricher.DefaultController.ensureDeployment
      split <;> rfl
  | defaultService =>
    obtain rfl | ⟨d, _, rfl⟩ := h
    · rfl
    · rw [Enricher.DefaultService.complete_of_kind (hservice rfl)]
  | images =>
    obtain rfl | ⟨_, h⟩ := h
    · rfl
    · obtain ⟨_, rfl⟩ | ⟨_, _, _, rfl⟩ := Enricher.Images.complete_cases h <;> rfl
  | healthChecks =>
    obtain rfl | ⟨_, _, h⟩ := h
    · rfl
    · rw [Enricher.HealthChecks.returns_complete] at h
      subst h
      split <;> rfl
  | registrySecrets =>
    obtain ⟨rfl, _⟩ | ⟨_, _, _, hname⟩ := Enricher.RegistrySecrets.complete_cases h
    · rfl
    · exact hname
  | projectLabels | podAnnotations | volumePermissions | imageTriggers => rw [show s = r from h]

lemma givenName?_eq_none {kind : Kind} (hnaming : e ≠ naming)
    (hservice : e = defaultService → kind ≠ .service) : givenName? c e kind = none := by
  unfold givenName?
  split
  · exact absurd rfl hnaming
  · exact absurd rfl (hservice rfl)
  · rfl

lemma namedBy_of_addMissing (h : ((e.enricher c).addMissing platform before).Returns after) :
    KeepsItems (Resource.NamedBy (givenName? c e)) before after := by
  by_cases hnaming : e = naming
  · subst hnaming
    cases Logged.returns_pure.mp h
    exact KeepsItems.map fun r _ => namedBy_nameResource rfl
  · by_cases hserves : e = defaultService ∧ before.hasKind [.service] = true
    · obtain ⟨rfl, hkind⟩ := hserves
      obtain ⟨d, _, ⟨_, rfl⟩ | ⟨hnone, _⟩ | ⟨hnone, _⟩⟩ :=
        Enricher.DefaultService.addMissing_cases h
      · refine KeepsItems.map fun r _ => ?_
        by_cases hr : r.kind = .service
        · exact namedBy_completeService hr
        · rw [Enricher.DefaultService.complete_of_kind hr]
          exact .of_name (givenName?_eq_none hnaming fun _ => hr) rfl rfl
      all_goals cases hnone.symm.trans hkind
    · obtain ⟨kept, extra, rfl, hkept, _⟩ := addMissing_cases h
      refine KeepsItems.append (.of_forall₂ ?_) extra
      -- Where the enricher of services runs without any, the names of services do not matter.
      have hother : ∀ r ∈ before, e = defaultService → r.kind ≠ .service := by
        intro r hr he hkind
        have hnone := Bool.eq_false_iff.mpr fun hsome => hserves ⟨he, hsome⟩
        exact Collection.hasKind_eq_false_iff.mp hnone r hr (List.mem_singleton.mpr hkind)
      have hmem := (List.forall₂_and_left before kept).mpr ⟨fun _ hr => hr, hkept⟩
      refine hmem.imp fun r s ⟨hr, hrs⟩ => ?_
      exact .of_name (givenName?_eq_none hnaming (hother r hr)) (kind_of_completes hrs)
        (name_of_completes hnaming (hother r hr) hrs)

/-! ### A run -/

/-- The first enricher that has a name for a kind names the resources of that kind. -/
lemma namedBy_of_addAll (hdefault : Text.isBlank c.project.defaultResourceName = false)
    (h : (addAll c platform steps before).Returns after) :
    KeepsItems (Resource.NamedBy fun kind => steps.findSome? (givenName? c · kind)) before
      after := by
  unfold addAll at h
  induction steps generalizing before with
  | nil =>
    rw [← Logged.returns_pure.mp h]
    exact KeepsItems.refl (fun r => .of_name rfl rfl rfl) _
  | cons step steps ih =>
    rw [List.foldlM_cons, Logged.returns_bind] at h
    obtain ⟨d, hd, h⟩ := h
    -- What the first step names is named, so that the later ones leave it alone.
    intro i r hr
    obtain ⟨s, hs, hrs⟩ := namedBy_of_addMissing hd i r hr
    obtain ⟨t, ht, hst⟩ := ih h i s hs
    refine ⟨t, ht, ?_⟩
    have hboth := hrs.trans hst fun name hname => isBlank_givenName? hdefault hname
    convert hboth using 2 with kind
    rw [List.findSome?_cons]
    cases givenName? c step kind <;> rfl

/-- Services get the name for services where the enricher of these comes first. -/
lemma findSome?_givenName? (hnaming : naming ∈ steps) (kind : Kind) :
    steps.findSome? (givenName? c · kind) =
      if kind = .service ∧ defaultService ∈ steps.takeWhile (· ≠ naming) then
        some (Enricher.DefaultService.defaultName c)
      else some (c.resourceName Enricher.Naming.name Enricher.Naming.nameKey) := by
  induction steps with
  | nil => cases hnaming
  | cons step steps ih =>
    rw [List.findSome?_cons]
    by_cases hstep : step = naming
    · subst hstep
      simp [givenName?]
    · have hrest : naming ∈ steps := (List.mem_cons.mp hnaming).resolve_left (Ne.symm hstep)
      have htake : (step :: steps).takeWhile (· ≠ naming) =
          step :: steps.takeWhile (· ≠ naming) := by
        rw [List.takeWhile_cons, if_pos (decide_eq_true hstep)]
      simp only [htake, List.mem_cons]
      by_cases hservice : step = defaultService ∧ kind = .service
      · obtain ⟨rfl, rfl⟩ := hservice
        simp [givenName?]
      · have hnone : givenName? c step kind = none :=
          givenName?_eq_none hstep fun he hkind => hservice ⟨he, hkind⟩
        rw [hnone]
        dsimp only
        rw [ih hrest]
        refine if_congr (and_congr_right fun hkind => ?_) rfl rfl
        exact (or_iff_right fun he => hservice ⟨he.symm, hkind⟩).symm

/-- Whatever the enricher of names finds is named behind it. -/
lemma named_of_addAll (hdefault : Text.isBlank c.project.defaultResourceName = false)
    (hnaming : naming ∈ steps) (h : (addAll c platform steps before).Returns after) :
    ∀ r ∈ after, r.Named := by
  refine Logged.returns_foldlM_of_mem (I := fun _ => True) (P := fun d => ∀ r ∈ d, r.Named) hnaming
    (fun _ _ _ _ _ _ _ => trivial) ?_ ?_ trivial h
  · intro b d hstep _ r hr
    cases Logged.returns_pure.mp hstep
    obtain ⟨s, _, rfl⟩ := List.mem_map.mp hr
    exact Enricher.Naming.named_nameResource
      (Enricher.Context.isBlank_resourceName hdefault _ _) s
  · intro step _ b d hstep hb
    exact forall_of_addMissing hstep named_of_completes (fun r => named_of_appends hdefault) hb

end StandardEnricher

namespace Enrichment

variable {e : Enrichment} {steps : List StandardEnricher} {platform : Config.Platform}
  {before after : Collection} {r s : Resource}

/-- The name of a resource is its own, or one that was chosen for it. -/
structure GetsName (c : Enricher.Context) (steps : List StandardEnricher) (r s : Resource) :
    Prop where
  kind : s.kind = r.kind
  own : r.Named → s.metadata.name = r.metadata.name
  service : ¬r.Named → r.kind = .service → .defaultService ∈ steps.takeWhile (· ≠ .naming) →
    ∃ name, s.metadata.name = some name ∧
      c.Chooses Enricher.DefaultService.name Enricher.DefaultService.nameKey name
  other : ¬r.Named → (r.kind = .service → .defaultService ∉ steps.takeWhile (· ≠ .naming)) →
    ∃ name, s.metadata.name = some name ∧
      c.Chooses Enricher.Naming.name Enricher.Naming.nameKey name

lemma getsName_of_namedBy {c : Enricher.Context} (hnaming : .naming ∈ steps)
    (h : r.NamedBy (fun kind => steps.findSome? (StandardEnricher.givenName? c · kind)) s) :
    GetsName c steps r s where
  kind := h.kind
  own := h.own
  service hr hkind hfirst := by
    have hname := h.given hr
    rw [StandardEnricher.findSome?_givenName? hnaming, if_pos ⟨hkind, hfirst⟩, Option.some_or]
      at hname
    exact ⟨_, hname, Enricher.Context.chooses_resourceName ..⟩
  other hr hlater := by
    have hname := h.given hr
    rw [StandardEnricher.findSome?_givenName? hnaming,
      if_neg fun ⟨hkind, hfirst⟩ => hlater hkind hfirst, Option.some_or] at hname
    exact ⟨_, hname, Enricher.Context.chooses_resourceName ..⟩

/-- **Everything is named where the enricher of names runs.**  Names stay, and resources without one
get the name that is chosen for all, or for services where these are completed first. -/
theorem named_addMissing (hruns : e.Runs steps) (hnaming : .naming ∈ steps)
    (hdefault : Text.isBlank e.context.project.defaultResourceName = false)
    (h : (e.addMissing platform before).Returns after) :
    (∀ r ∈ after, r.Named) ∧ KeepsItems (GetsName e.context steps) before after := by
  rw [hruns.addMissing] at h
  refine ⟨StandardEnricher.named_of_addAll hdefault hnaming h, fun i r hr => ?_⟩
  obtain ⟨s, hs, hrs⟩ := StandardEnricher.namedBy_of_addAll hdefault h i r hr
  exact ⟨s, hs, getsName_of_namedBy hnaming hrs⟩

/-- An enrichment that completes services before it names resources. -/
def servesFirst : Enrichment :=
  let context : Enricher.Context := {
    project := { (default : Config.Project) with artifactId := "Shop", groupId := "org" }
    images := []
    policy := default
    selection := ((default : Config.Selection).withSetting Enricher.DefaultService.name
      Enricher.DefaultService.nameKey.name "front").withSetting Enricher.Naming.name
      Enricher.Naming.nameKey.name " "
    envDefaults := none }
  ⟨context, [StandardEnricher.defaultService, .naming].map (·.enricher context)⟩

/-- A service and a map without names, and a map with one. -/
def unnamedManifests : Collection :=
  [{ metadata := default, content := .service none },
    { metadata := { (default : ObjectMeta) with name := some "" }, content := .configMap default },
    { metadata := { (default : ObjectMeta) with name := some "own" }
      content := .configMap default }]

theorem named_addMissing_servesFirst :
    ∃ after, servesFirst.Runs [.defaultService, .naming] ∧
      Text.isBlank servesFirst.context.project.defaultResourceName = false ∧
      (servesFirst.addMissing .kubernetes unnamedManifests).Returns after ∧
      after.map (·.metadata.name) = [some "front", some "shop", some "own"] ∧
      (∀ r ∈ after, r.Named) ∧
      KeepsItems (GetsName servesFirst.context [.defaultService, .naming]) unnamedManifests
        after := by
  have hruns : servesFirst.Runs [.defaultService, .naming] := by rfl
  have hdefault : Text.isBlank servesFirst.context.project.defaultResourceName = false := by
    decide +kernel
  obtain ⟨after, h, hnames⟩ := Logged.exists_returns_of_any
    (x := servesFirst.addMissing .kubernetes unnamedManifests)
    (p := fun after => after.map (·.metadata.name) = [some "front", some "shop", some "own"])
    (by decide +kernel)
  exact ⟨after, hruns, hdefault, h, of_decide_eq_true hnames,
    named_addMissing hruns (by decide) hdefault h⟩

end Enrichment
end Manifests
