import Manifests.Proofs.Entries
import Manifests.Proofs.Pods.Variables

/-! The environment that is built from two maps.  A configured variable hides the provided one of
its name, and neither map has a say in the variable that refers to the namespace. -/
namespace Manifests.Environment

variable {configured provided m : SortedMap String} {provider : Provider} {v : EnvVar}

/-- Building fails as the provider does; where there is none, nothing is provided. -/
lemma outcome_build_eq (configured : SortedMap String) (provider : Provider) :
    (build configured provider).outcome = do
      let provided ← provider.getD (.ok ∅)
      return admittedVars (configured.fill provided).toList ++ [namespaceVariable] := by
  have hvars : ∀ provided : SortedMap String,
      (envVars (configured.fill provided).toList).outcome =
        .ok (admittedVars (configured.fill provided).toList) := fun _ => returns_envVars _
  unfold build
  cases provider with
  | none =>
    simp only [Logged.outcome_bind, Logged.outcome_pure, hvars, Option.getD_none]
    rfl
  | some outcome =>
    simp only [Logged.outcome_bind, Logged.outcome_ofExcept, Logged.outcome_pure, hvars,
      Option.getD_some]
    rfl

/-- A variable for an entry that is configured, or else provided, under a name that may be. -/
structure StandsFor (configured provided : SortedMap String) (v : EnvVar) : Prop where
  named : Text.isBlank v.name = false
  unreserved : v.name ≠ "KUBERNETES_NAMESPACE"
  valued : v.value.isSome = true
  literal : v.valueFrom = none
  entry : configured.get? v.name = v.value ∨
    configured.get? v.name = none ∧ provided.get? v.name = v.value

/-- The variable that refers to the namespace of the pod. -/
structure RefersToNamespace (v : EnvVar) : Prop where
  name : v.name = "KUBERNETES_NAMESPACE"
  value : v.value = none
  field : ∃ source field, v.valueFrom = some source ∧ source.fieldRef = some field ∧
    field.fieldPath = "metadata.namespace"

lemma refersToNamespace_namespaceVariable : RefersToNamespace namespaceVariable :=
  ⟨rfl, rfl, _, _, rfl, rfl, rfl⟩

lemma mem_admittedVars : v ∈ admittedVars m.toList ↔ ∃ value, v = variableOf v.name value ∧
    Enricher.Images.Admitted v.name ∧ m.get? v.name = some value := by
  unfold admittedVars Enricher.Images.Admitted
  simp only [List.mem_map, List.mem_filter, Bool.and_eq_true, Bool.not_eq_true', bne_iff_ne]
  constructor
  · rintro ⟨⟨name, value⟩, ⟨hmem, hname⟩, rfl⟩
    exact ⟨value, rfl, hname, SortedMap.get?_eq_some_iff.mpr hmem⟩
  · rintro ⟨value, hv, hname, hvalue⟩
    exact ⟨(v.name, value), ⟨SortedMap.get?_eq_some_iff.mp hvalue, hname⟩, hv.symm⟩

lemma pairwise_admittedVars (m : SortedMap String) :
    (admittedVars m.toList).Pairwise fun v w => v.name < w.name := by
  unfold admittedVars
  rw [List.pairwise_map]
  exact m.ascending.filter _

/-- What fills up a map shows where the map has nothing. -/
lemma get?_fill_eq_some_iff {name value : String} :
    (configured.fill provided).get? name = some value ↔ configured.get? name = some value ∨
      configured.get? name = none ∧ provided.get? name = some value := by
  rw [SortedMap.get?_fill]
  cases configured.get? name <;> simp

lemma mem_admittedVars_fill :
    v ∈ admittedVars (configured.fill provided).toList ↔ StandsFor configured provided v := by
  rw [mem_admittedVars]
  constructor
  · rintro ⟨value, hv, ⟨hnamed, hunreserved⟩, hvalue⟩
    have hentry := get?_fill_eq_some_iff.mp hvalue
    have hv' : v.value = some value := by rw [hv]; rfl
    refine ⟨hnamed, hunreserved, by rw [hv']; rfl, by rw [hv]; rfl, ?_⟩
    rwa [hv']
  · intro h
    obtain ⟨value, hvalue⟩ := Option.isSome_iff_exists.mp h.valued
    refine ⟨value, ?_, ⟨h.named, h.unreserved⟩, get?_fill_eq_some_iff.mpr ?_⟩
    · obtain ⟨name, value', source⟩ := v
      cases hvalue
      cases h.literal
      rfl
    · exact hvalue ▸ h.entry

/-- **The variables of both maps in ascending order, then the namespace.**  A provider that fails is
the only reason for a failure. -/
theorem outcome_build (configured : SortedMap String) (provider : Provider) :
    match provider.getD (.ok ∅) with
    | .error error => (build configured provider).Fails error
    | .ok provided => ∃ vars reference,
      (build configured provider).Returns (vars ++ [reference]) ∧
        vars.Pairwise (fun v w => v.name < w.name) ∧
        (∀ v, v ∈ vars ↔ StandsFor configured provided v) ∧ RefersToNamespace reference := by
  have houtcome := outcome_build_eq configured provider
  split
  next error herror =>
    rw [herror] at houtcome
    exact houtcome
  next provided hprovided =>
    rw [hprovided] at houtcome
    exact ⟨admittedVars (configured.fill provided).toList, namespaceVariable, houtcome,
      pairwise_admittedVars _, fun v => mem_admittedVars_fill,
      refersToNamespace_namespaceVariable⟩

example : (build (.ofList [("KUBERNETES_NAMESPACE", "x"), ("B", "own"), (" ", "y")])
    (some (.ok (.ofList [("B", "given"), ("A", "given")])))).outcome.toOption.map
      (·.map fun v => (v.name, v.value)) =
    some [("A", some "given"), ("B", some "own"), ("KUBERNETES_NAMESPACE", none)] := by
  decide +kernel

end Manifests.Environment
