import Mathlib.Data.Set.List
import Manifests.Enrichment
import Manifests.Proofs.Selection

/-! An enrichment taken apart into the steps of the standard enrichers that run, phase by phase.  A
build that selects no enrichers itself runs all of them, in the order of the standard descriptor. -/
namespace Manifests

/-- Nothing is included, excluded or described in addition. -/
structure Config.Selection.IsPlain (s : Config.Selection) : Prop where
  includes : s.includes = none
  excludes : s.excludes = ∅
  descriptors : s.descriptors = []

namespace Descriptor

/-- The standard enrichers with ascending orders from the first one on. -/
def standardEntries : List Entry :=
  StandardEnricher.all.zipIdx.map fun (e, i) => ⟨e.name, firstOrder + i⟩

lemma read_standard :
    ([standard].flatMap fun s => Text.lines s.toList).foldl Reading.line start =
      ⟨standardEntries, firstOrder + StandardEnricher.all.length⟩ := by
  have hparts : ∀ {r s : Reading}, r.entries = s.entries ∧ r.nextOrder = s.nextOrder → r = s := by
    rintro ⟨_, _⟩ ⟨_, _⟩ ⟨rfl, rfl⟩
    rfl
  exact hparts (by decide +kernel)

lemma parse_standard : parse [standard] = standardEntries := by
  rw [parse, read_standard]
  exact List.mergeSort_of_pairwise (by decide)

lemma factories_standard :
    factories StandardEnricher.registry standardEntries =
      .ok (StandardEnricher.all.map StandardEnricher.factory) := rfl

end Descriptor

namespace StandardEnricher

/-- The enrichers add what is missing, one after the other. -/
def addAll (c : Enricher.Context) (platform : Config.Platform) (steps : List StandardEnricher)
    (before : Collection) : Logged Collection :=
  steps.foldlM (fun d step => (step.enricher c).addMissing platform d) before

def adaptAll (c : Enricher.Context) (platform : Config.Platform) (steps : List StandardEnricher)
    (before : Collection) : Logged Collection :=
  steps.foldlM (fun d step => (step.enricher c).adapt platform d) before

end StandardEnricher

namespace Enrichment

/-- Standard enrichers, by name, as the enrichers that run. -/
def Runs (e : Enrichment) (steps : List StandardEnricher) : Prop :=
  e.active = .ok (steps.map (StandardEnricher.enricher e.context))

/-- Labels a collection and adapts it. -/
def finish (e : Enrichment) (platform : Config.Platform) (c : Collection) : Logged Collection := do
  let c ← Logged.ofExcept (e.label c)
  e.adapt platform c

section Phases
variable {e : Enrichment} {steps : List StandardEnricher} {platform : Config.Platform}
  {before after : Collection}

/-- An enrichment adds what is missing and finishes what comes of it. -/
lemma enrich_eq_finish : e.enrich platform before =
    e.addMissing platform before >>= fun added => e.finish platform added := rfl

lemma returns_enrich : (e.enrich platform before).Returns after ↔ ∃ added,
    (e.addMissing platform before).Returns added ∧ (e.finish platform added).Returns after := by
  rw [enrich_eq_finish, Logged.returns_bind]

lemma Runs.addMissing (hruns : e.Runs steps) :
    e.addMissing platform before = StandardEnricher.addAll e.context platform steps before := by
  unfold Enrichment.addMissing
  rw [hruns]
  exact List.foldlM_map

lemma Runs.label (hruns : e.Runs steps) :
    e.label before = .ok (before.map (Labelling.labelResource e.context.policy
      (steps.map (StandardEnricher.enricher e.context)))) := by
  change (e.active >>= fun active => _) = _
  rw [hruns]
  rfl

lemma Runs.adapt (hruns : e.Runs steps) :
    e.adapt platform before = StandardEnricher.adaptAll e.context platform steps before := by
  unfold Enrichment.adapt
  rw [hruns]
  exact List.foldlM_map

lemma Runs.returns_finish (hruns : e.Runs steps) :
    (e.finish platform before).Returns after ↔
      (StandardEnricher.adaptAll e.context platform steps
        (before.map (Labelling.labelResource e.context.policy
          (steps.map (StandardEnricher.enricher e.context))))).Returns after := by
  rw [finish, hruns.label, Logged.returns_bind]
  constructor
  · rintro ⟨labelled, hlabelled, h⟩
    cases hlabelled
    rwa [hruns.adapt] at h
  · intro h
    exact ⟨_, rfl, by rwa [hruns.adapt]⟩

/-- The phases of an enrichment by the steps in them. -/
lemma Runs.returns_enrich (hruns : e.Runs steps) :
    (e.enrich platform before).Returns after ↔ ∃ added,
      (StandardEnricher.addAll e.context platform steps before).Returns added ∧
      (StandardEnricher.adaptAll e.context platform steps
        (added.map (Labelling.labelResource e.context.policy
          (steps.map (StandardEnricher.enricher e.context))))).Returns after := by
  simp only [Enrichment.returns_enrich, hruns.addMissing, hruns.returns_finish]

end Phases

/-- Enrichers are told apart by their names. -/
lemma Runs.unique {e : Enrichment} {steps steps' : List StandardEnricher} (h : e.Runs steps)
    (h' : e.Runs steps') : steps = steps' := by
  have hinjective : Function.Injective (StandardEnricher.enricher e.context) := by
    intro x y hxy
    have hname := congrArg Enricher.name hxy
    rw [StandardEnricher.name_enricher, StandardEnricher.name_enricher] at hname
    apply Option.some.inj
    rw [← StandardEnricher.ofName?_name, hname, StandardEnricher.ofName?_name]
  exact List.map_injective_iff.mpr hinjective (Except.ok.inj (h.symm.trans h'))

/-- Whatever is described and selected, standard enrichers run. -/
lemma exists_runs {files : FileTree} {c : Enricher.Context} {e : Enrichment}
    {active : List Enricher} (he : ofContext files StandardEnricher.registry c = .ok e)
    (hactive : e.active = .ok active) : ∃ steps, e.Runs steps := by
  obtain ⟨sources, _, he⟩ := Except.bind_eq_ok.mp he
  obtain ⟨factories, hfactories, he⟩ := Except.bind_eq_ok.mp he
  cases he
  have hstandard : ∀ factory ∈ factories, ∃ step, StandardEnricher.factory step = factory := by
    intro factory hmem
    obtain ⟨entry, _, hentry⟩ := Except.exists_of_mem_mapM hfactories hmem
    split at hentry
    next hfind =>
      cases hentry
      obtain ⟨step, _, hstep⟩ := List.mem_map.mp (List.mem_of_find?_eq_some hfind)
      exact ⟨step, hstep⟩
    next => cases hentry
  obtain ⟨steps, rfl⟩ : active ∈ Set.range (List.map (StandardEnricher.enricher c)) := by
    rw [Set.range_list_map]
    intro x hx
    obtain ⟨factory, hmem, rfl⟩ := List.mem_map.mp (Config.Selection.mem_of_prepare hactive x hx)
    obtain ⟨step, rfl⟩ := hstandard factory hmem
    exact ⟨step, rfl⟩
  exact ⟨steps, hactive⟩

lemma ofContext_of_isPlain {files : FileTree} {c : Enricher.Context} (hc : c.selection.IsPlain) :
    ofContext files StandardEnricher.registry c =
      .ok ⟨c, StandardEnricher.all.map (StandardEnricher.enricher c)⟩ := by
  have hsources : Descriptor.sources files c.selection.descriptors = .ok [Descriptor.standard] := by
    rw [hc.descriptors]
    rfl
  rw [ofContext, hsources]
  change (Descriptor.factories _ (Descriptor.parse [Descriptor.standard]) >>= _) = _
  rw [Descriptor.parse_standard, Descriptor.factories_standard]
  rfl

lemma runs_all_of_isPlain {c : Enricher.Context} (hc : c.selection.IsPlain) :
    Runs ⟨c, StandardEnricher.all.map (StandardEnricher.enricher c)⟩ StandardEnricher.all := by
  refine Config.Selection.prepare_eq_ok_iff.mpr ?_
  unfold Config.Selection.Chooses
  rw [hc.includes, hc.excludes]
  exact (List.filter_eq_self.mpr fun _ _ => rfl).symm

end Enrichment
end Manifests
