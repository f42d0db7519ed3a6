import Manifests.Proofs.Discovery

/-!
Enrichment in place.  The enrichers change a collection where it stands, so a run that fails leaves
something behind; how it ends and what a complete run leaves are as the enrichment computes them.
Which enrichers run is looked up anew in each phase, and before the phase touches the collection.
-/
namespace Manifests

/-- What becomes of a collection in place: the error that ends the change, if one does, and the
collection that is left. -/
abbrev Change := Collection → Option Error → Collection → Prop

namespace Change

variable {α : Type}

/-- Steps one after the other, up to the first that fails; a step that fails may leave anything. -/
inductive Steps (f : α → Collection → Logged Collection) : List α → Change
  | done {c} : Steps f [] c none c
  | fails {x xs before after error} (h : (f x before).Fails error) :
    Steps f (x :: xs) before (some error) after
  | next {x xs before between stop after} (h : (f x before).Returns between)
    (rest : Steps f xs between stop after) : Steps f (x :: xs) before stop after

/-- One change and then another, unless the first one ends with an error. -/
inductive AndThen (first second : Change) : Change
  | ends {before after error} (h : first before (some error) after) :
    AndThen first second before (some error) after
  | continues {before between stop after} (h : first before none between)
    (rest : second between stop after) : AndThen first second before stop after

/-- A change by what is looked up first.  Where nothing is found the collection is left alone. -/
inductive ByLookup (found : Except Error α) (change : α → Change) : Change
  | refused {c error} (h : found = .error error) : ByLookup found change c (some error) c
  | found {a before stop after} (h : found = .ok a) (rest : change a before stop after) :
    ByLookup found change before stop after

/-- The change ends as a computation does, and leaves what it returns. -/
structure Implements (change : Change) (f : Collection → Logged Collection) : Prop where
  returns : ∀ {before after}, change before none after ↔ (f before).Returns after
  fails : ∀ {before error}, (∃ after, change before (some error) after) ↔ (f before).Fails error

lemma implements_steps {f : α → Collection → Logged Collection} {xs : List α} :
    Implements (Steps f xs) fun c => xs.foldlM (fun c x => f x c) c := by
  induction xs with
  | nil =>
    refine ⟨fun {before after} => ?_, fun {before error} => ?_⟩
    · rw [List.foldlM_nil, Logged.returns_pure]
      constructor
      · rintro ⟨⟩
        rfl
      · rintro rfl
        exact .done
    · rw [List.foldlM_nil]
      refine iff_of_false ?_ Logged.fails_pure
      rintro ⟨after, ⟨⟩⟩
  | cons x xs ih =>
    refine ⟨fun {before after} => ?_, fun {before error} => ?_⟩
    · rw [List.foldlM_cons, Logged.returns_bind]
      constructor
      · rintro (_ | _ | ⟨h, rest⟩)
        exact ⟨_, h, ih.returns.mp rest⟩
      · rintro ⟨between, h, rest⟩
        exact .next h (ih.returns.mpr rest)
    · rw [List.foldlM_cons, Logged.fails_bind]
      constructor
      · rintro ⟨after, _ | h | ⟨h, rest⟩⟩
        · exact .inl h
        · exact .inr ⟨_, h, ih.fails.mp ⟨after, rest⟩⟩
      · rintro (h | ⟨between, h, rest⟩)
        · exact ⟨before, .fails h⟩
        · obtain ⟨after, rest⟩ := ih.fails.mpr rest
          exact ⟨after, .next h rest⟩

lemma Implements.andThen {first second : Change} {f g : Collection → Logged Collection}
    (hf : first.Implements f) (hg : second.Implements g) :
    (first.AndThen second).Implements fun c => f c >>= g where
  returns {before after} := by
    rw [Logged.returns_bind]
    constructor
    · rintro (_ | ⟨h, rest⟩)
      exact ⟨_, hf.returns.mp h, hg.returns.mp rest⟩
    · rintro ⟨between, h, rest⟩
      exact .continues (hf.returns.mpr h) (hg.returns.mpr rest)
  fails {before error} := by
    rw [Logged.fails_bind]
    constructor
    · rintro ⟨after, h | ⟨h, rest⟩⟩
      · exact .inl (hf.fails.mp ⟨after, h⟩)
      · exact .inr ⟨_, hf.returns.mp h, hg.fails.mp ⟨after, rest⟩⟩
    · rintro (h | ⟨between, h, rest⟩)
      · obtain ⟨after, h⟩ := hf.fails.mpr h
        exact ⟨after, .ends h⟩
      · obtain ⟨after, rest⟩ := hg.fails.mpr rest
        exact ⟨after, .continues (hf.returns.mpr h) rest⟩

lemma implements_byLookup {found : Except Error α} {change : α → Change}
    {f : α → Collection → Logged Collection} (hf : ∀ a, (change a).Implements (f a)) :
    (ByLookup found change).Implements fun c => Logged.ofExcept found >>= fun a => f a c where
  returns {before after} := by
    rw [Logged.returns_bind]
    constructor
    · rintro (_ | ⟨h, rest⟩)
      exact ⟨_, h, (hf _).returns.mp rest⟩
    · rintro ⟨a, h, rest⟩
      exact .found h ((hf a).returns.mpr rest)
  fails {before error} := by
    rw [Logged.fails_bind]
    constructor
    · rintro ⟨after, h | ⟨h, rest⟩⟩
      · exact .inl h
      · exact .inr ⟨_, h, (hf _).fails.mp ⟨after, rest⟩⟩
    · rintro (h | ⟨a, h, rest⟩)
      · exact ⟨before, .refused h⟩
      · obtain ⟨after, rest⟩ := (hf a).fails.mpr rest
        exact ⟨after, .found h rest⟩

lemma byLookup_error_iff {error : Error} {change : α → Change} {before after : Collection}
    {stop : Option Error} :
    ByLookup (.error error) change before stop after ↔ stop = some error ∧ after = before := by
  constructor
  · rintro (⟨⟨⟩⟩ | ⟨⟨⟩, _⟩)
    exact ⟨rfl, rfl⟩
  · rintro ⟨rfl, rfl⟩
    exact .refused rfl

lemma byLookup_ok {a : α} {change : α → Change} : ByLookup (.ok a) change = change a := by
  funext before stop after
  refine propext ⟨?_, .found rfl⟩
  rintro (⟨⟨⟩⟩ | ⟨⟨⟩, rest⟩)
  exact rest

end Change

namespace Enrichment

open Change

/-- Enrichers add what is missing. -/
def Adding (platform : Config.Platform) (active : List Enricher) : Change :=
  Steps (fun enricher => enricher.addMissing platform) active

/-- Every resource is labelled, which does not fail. -/
def LabellingAll (policy : Config.Policy) (active : List Enricher) : Change :=
  fun before stop after =>
    stop = none ∧ after = before.map (Labelling.labelResource policy active)

/-- Enrichers adapt what is there. -/
def Adapting (platform : Config.Platform) (active : List Enricher) : Change :=
  Steps (fun enricher => enricher.adapt platform) active

/-- The three phases by the same enrichers. -/
def InPlaceBy (policy : Config.Policy) (platform : Config.Platform) (active : List Enricher) :
    Change :=
  (Adding platform active).AndThen
    ((LabellingAll policy active).AndThen (Adapting platform active))

/-- The three phases, each with a look-up of its own. -/
def InPlace (e : Enrichment) (platform : Config.Platform) : Change :=
  (ByLookup e.active (Adding platform)).AndThen
    ((ByLookup e.active (LabellingAll e.context.policy)).AndThen
      (ByLookup e.active (Adapting platform)))

/-- What the three phases by the same enrichers compute. -/
def enrichBy (policy : Config.Policy) (platform : Config.Platform) (active : List Enricher)
    (before : Collection) : Logged Collection := do
  let added ← active.foldlM (fun c enricher => enricher.addMissing platform c) before
  let labelled := added.map (Labelling.labelResource policy active)
  active.foldlM (fun c enricher => enricher.adapt platform c) labelled

variable {e : Enrichment} {platform : Config.Platform} {active : List Enricher}

lemma implements_labellingAll {policy : Config.Policy} :
    (LabellingAll policy active).Implements fun c =>
      pure (c.map (Labelling.labelResource policy active)) where
  returns := by simp [LabellingAll, eq_comm]
  fails := by simp [LabellingAll]

/-- What is done in place is what an enrichment computes. -/
theorem implements_inPlace : (e.InPlace platform).Implements (e.enrich platform) := by
  have hadd : (ByLookup e.active (Adding platform)).Implements (e.addMissing platform) :=
    implements_byLookup fun _ => implements_steps
  have hlabel : (ByLookup e.active (LabellingAll e.context.policy)).Implements fun c =>
      Logged.ofExcept (e.label c) := by
    have hlookup : (ByLookup e.active (LabellingAll e.context.policy)).Implements fun c =>
        Logged.ofExcept e.active >>= fun active =>
          pure (c.map (Labelling.labelResource e.context.policy active)) :=
      implements_byLookup fun _ => implements_labellingAll
    convert hlookup using 2 with c
    change Logged.ofExcept (e.active >>= _) = _
    cases e.active <;> rfl
  have hadapt : (ByLookup e.active (Adapting platform)).Implements (e.adapt platform) :=
    implements_byLookup fun _ => implements_steps
  exact hadd.andThen (hlabel.andThen hadapt)

/-- Where the active enrichers are found, every phase finds the same ones. -/
lemma inPlace_of_active (h : e.active = .ok active) :
    e.InPlace platform = InPlaceBy e.context.policy platform active := by
  unfold InPlace InPlaceBy
  rw [h, byLookup_ok, byLookup_ok, byLookup_ok]

/-- Where they are not, the first phase ends the run and nothing is changed. -/
lemma inPlace_iff_of_error {error : Error} {stop : Option Error} {before after : Collection}
    (h : e.active = .error error) :
    e.InPlace platform before stop after ↔ stop = some error ∧ after = before := by
  unfold InPlace
  rw [h]
  constructor
  · rintro (h | ⟨h, _⟩)
    · exact byLookup_error_iff.mp h
    · cases (byLookup_error_iff.mp h).1
  · rintro ⟨rfl, rfl⟩
    exact .ends (.refused rfl)

lemma enrich_of_error {error : Error} {before : Collection} (h : e.active = .error error) :
    e.enrich platform before = ⟨.error error, []⟩ := by
  unfold enrich addMissing
  rw [h]
  rfl

lemma enrich_of_active {before : Collection} (h : e.active = .ok active) :
    e.enrich platform before = enrichBy e.context.policy platform active before := by
  have hlabel : ∀ c, e.label c = .ok (c.map (Labelling.labelResource e.context.policy active)) := by
    intro c
    change (e.active >>= _) = _
    rw [h]
    rfl
  unfold enrich addMissing adapt enrichBy
  rw [h]
  simp only [hlabel]
  rfl

section Descriptors

variable {files : FileTree} {registry : List Enricher.Factory} {c : Enricher.Context}

lemma ofContext_of_isInline
    (hinline : ∀ source ∈ c.selection.descriptors, Descriptor.IsInline files source) :
    ofContext files registry c = (Descriptor.factories registry
      (Descriptor.parse (Descriptor.standard :: c.selection.descriptors))).map fun factories =>
        ⟨c, factories.map (·.make c)⟩ := by
  unfold ofContext
  rw [Descriptor.sources_of_isInline hinline]
  cases h : Descriptor.factories registry
    (Descriptor.parse (Descriptor.standard :: c.selection.descriptors)) <;>
  simp [Bind.bind, Except.bind, pure, Except.pure, Except.map, h]

/-- With inline descriptors an enrichment cannot be made exactly if an entry is not registered, and
the first such entry is named.  Where an include was not discovered, the first such include is named
and the collection is left as it was; else the phases are all by the enrichers that the selection
says, whatever becomes of them. -/
theorem inPlace_ofContext
    (hinline : ∀ source ∈ c.selection.descriptors, Descriptor.IsInline files source) :
    let entries := Descriptor.parse (Descriptor.standard :: c.selection.descriptors)
    (entries.Pairwise fun a b => a.order ≤ b.order) ∧ (entries.map (·.name)).Nodup ∧
    (∀ error, ofContext files registry c = .error error ↔ ∃ entry,
      Descriptor.unregistered? registry entries = some entry ∧
      error = .unknownEnricher entry.name) ∧
    ∀ e, ofContext files registry c = .ok e →
      List.Forall₂ (Descriptor.Entry.Makes registry c) entries e.enrichers ∧
      (∀ platform, (e.InPlace platform).Implements (e.enrich platform)) ∧
      (∀ name, c.selection.undiscovered? (·.name) e.enrichers = some name → ∀ platform before,
        e.enrich platform before = ⟨.error (.unknownInclude "enricher" name), []⟩ ∧
        ∀ stop after, e.InPlace platform before stop after ↔
          stop = some (.unknownInclude "enricher" name) ∧ after = before) ∧
      (c.selection.undiscovered? (·.name) e.enrichers = none → ∃ active,
        c.selection.Activates (·.name) e.enrichers active ∧ ∀ platform,
          (∀ before, e.enrich platform before = enrichBy c.policy platform active before) ∧
          e.InPlace platform = InPlaceBy c.policy platform active) := by
  intro entries
  refine ⟨Descriptor.pairwise_order_parse _, Descriptor.nodup_names_parse _, ?_, ?_⟩
  · intro error
    rw [ofContext_of_isInline hinline, ← Descriptor.factories_eq_error_iff]
    cases Descriptor.factories registry entries <;> simp [Except.map]
  · intro e he
    rw [ofContext_of_isInline hinline] at he
    cases hfactories : Descriptor.factories registry entries with
    | error error =>
      rw [hfactories] at he
      cases he
    | ok factories =>
      rw [hfactories] at he
      cases he
      refine ⟨Descriptor.forall₂_makes_of_factories hfactories c,
        fun platform => implements_inPlace, ?_, ?_⟩
      · intro name hname platform before
        have herror : Enrichment.active ⟨c, factories.map (·.make c)⟩ =
            .error (.unknownInclude "enricher" name) :=
          Config.Selection.prepare_eq_error_iff.mpr ⟨name, hname, rfl⟩
        exact ⟨enrich_of_error herror, fun stop after => inPlace_iff_of_error herror⟩
      · intro hnone
        obtain ⟨active, hactive⟩ : ∃ active,
            Enrichment.active ⟨c, factories.map (·.make c)⟩ = .ok active :=
          Config.Selection.exists_prepare_of_undiscovered hnone
        exact ⟨active, Config.Selection.activates_of_prepare hactive,
          fun platform => ⟨fun before => enrich_of_active hactive, inPlace_of_active hactive⟩⟩

end Descriptors

/-- The standard enrichers and one that only looks on. -/
def auditRegistry : List Enricher.Factory :=
  ⟨"audit", fun _ => Enricher.idle "audit", fun _ => rfl⟩ :: StandardEnricher.registry

/-- The audit is described inline, and is excluded as well as included. -/
def auditContext : Enricher.Context where
  project := { (default : Config.Project) with artifactId := "shop", groupId := "org" }
  images := []
  policy := default
  selection := { (default : Config.Selection) with
    includes := some ["audit", "forge-name"]
    excludes := TextSet.ofList ["audit"]
    descriptors := ["!forge-service\naudit"] }
  envDefaults := none

/-- The standard entries but for the removed one, and the audit behind them. -/
def auditEntries : List Descriptor.Entry :=
  (Descriptor.standardEntries.filter (·.name != Enricher.DefaultService.name)) ++ [⟨"audit", 110⟩]

theorem inPlace_ofContext_auditing :
    (∀ source ∈ auditContext.selection.descriptors, Descriptor.IsInline default source) ∧
    ∃ e active, ofContext default auditRegistry auditContext = .ok e ∧
      e.enrichers.map (·.name) = auditEntries.map (·.name) ∧
      active.map Enricher.name = ["audit", "forge-name"] ∧
      e.InPlace .kubernetes = InPlaceBy auditContext.policy .kubernetes active := by
  have hinline : ∀ source ∈ auditContext.selection.descriptors,
      Descriptor.IsInline default source := by
    intro source hsource
    rw [List.mem_singleton.mp hsource]
    exact .inl (by simp)
  have hentries : Descriptor.parse (Descriptor.standard :: auditContext.selection.descriptors) =
      auditEntries :=
    Descriptor.parse_of_pairwise
      (by rw [Descriptor.read_standard_cons]; decide +kernel) (by decide)
  obtain ⟨_, _, herror, hok⟩ := inPlace_ofContext hinline
  cases he : ofContext default auditRegistry auditContext with
  | error error =>
    obtain ⟨entry, hentry, _⟩ := (herror error).mp he
    have hregistered : Descriptor.unregistered? auditRegistry auditEntries = none := by
      decide +kernel
    cases hregistered.symm.trans (hentries ▸ hentry)
  | ok e =>
    obtain ⟨hmakes, _, _, hruns⟩ := hok e he
    have hnames := Descriptor.map_name_of_forall₂_makes hmakes
    rw [hentries] at hnames
    have hdiscovered : auditContext.selection.undiscovered? Enricher.name e.enrichers = none := by
      rw [← Config.Selection.undiscovered?_map_id, hnames]
      decide
    obtain ⟨active, ⟨hactive, _⟩, hphases⟩ := hruns hdiscovered
    exact ⟨hinline, e, active, rfl, hnames, hactive, (hphases .kubernetes).2⟩

end Enrichment
end Manifests
