import Manifests.Proofs.Overlay.Container
import Manifests.Proofs.Pods.Steps

/-! The variables of containers while enrichers add.  They are only added behind those that are
there, under new names, and the name of the namespace is added for the reference to it alone. -/
namespace Manifests

namespace Environment

/-- Variables with names of their own. -/
def Distinct (vars : List EnvVar) : Prop := (vars.map (·.name)).Nodup

/-- Variables with others behind them, which were added one after the other. -/
inductive Widens (old : List EnvVar) : List EnvVar → Prop
  | refl : Widens old old
  | push {vars : List EnvVar} {v : EnvVar} (h : Widens old vars)
      (fresh : v.name ∉ vars.map (·.name))
      (reference : v.name = namespaceName → v = namespaceVariable) : Widens old (vars ++ [v])

variable {old vars new : List EnvVar}

lemma Widens.trans (h : Widens old vars) (h' : Widens vars new) : Widens old new := by
  induction h' with
  | refl => exact h
  | push _ fresh reference ih => exact ih.push fresh reference

lemma Widens.names_subset (h : Widens old new) : old.map (·.name) ⊆ new.map (·.name) := by
  induction h with
  | refl => exact List.Subset.refl _
  | push _ _ _ ih =>
    rw [List.map_append]
    exact List.subset_append_of_subset_left _ ih

lemma Widens.distinct (h : Widens old new) (hold : Distinct old) : Distinct new := by
  induction h with
  | refl => exact hold
  | @push vars v _ fresh _ ih =>
    unfold Distinct at ih ⊢
    rw [List.map_append]
    apply List.Nodup.append ih (List.nodup_singleton _)
    simpa using fresh

lemma filter_eq_nil {name : String} (h : name ∉ vars.map (·.name)) :
    vars.filter (·.name == name) = [] := by
  simp only [List.filter_eq_nil_iff, beq_iff_eq]
  intro v hv hname
  exact h (List.mem_map.mpr ⟨v, hv, hname⟩)

/-- The entries for the namespace stay, unless there was none. -/
lemma Widens.filter_cases (h : Widens old new) :
    new.filter (·.name == namespaceName) = old.filter (·.name == namespaceName) ∨
      old.filter (·.name == namespaceName) = [] ∧
        new.filter (·.name == namespaceName) = [namespaceVariable] := by
  induction h with
  | refl => exact .inl rfl
  | @push vars v _ fresh reference ih =>
    rw [List.filter_append]
    by_cases hname : v.name = namespaceName
    · have hnone : vars.filter (·.name == namespaceName) = [] := filter_eq_nil (hname ▸ fresh)
      obtain hsame | ⟨_, hadded⟩ := ih
      · refine .inr ⟨hsame.symm.trans hnone, ?_⟩
        rw [hnone, reference hname]
        rfl
      · rw [hnone] at hadded
        cases hadded
    · simpa [hname] using ih

lemma filter_name_eq (h : Distinct vars) (name : String) :
    vars.filter (·.name == name) = (vars.find? (·.name == name)).toList := by
  induction vars with
  | nil => rfl
  | cons v vars ih =>
    obtain ⟨hv, hvars⟩ := List.nodup_cons.mp h
    by_cases hname : v.name = name
    · have hnone : vars.filter (·.name == name) = [] := filter_eq_nil (hname ▸ hv)
      simp [hname, hnone]
    · have hrest := ih hvars
      simpa [hname] using hrest

/-- One entry is for the namespace, and it is the one that was declared, if any was. -/
lemma Widens.filter_eq (h : Widens old new) (hold : Distinct old)
    (hnew : namespaceName ∈ new.map (·.name)) : new.filter (·.name == namespaceName) =
      [(old.find? (·.name == namespaceName)).getD namespaceVariable] := by
  have hdeclared := filter_name_eq hold namespaceName
  have hne : new.filter (·.name == namespaceName) ≠ [] := by
    obtain ⟨v, hv, hname⟩ := List.mem_map.mp hnew
    intro hnil
    simpa [hname] using List.filter_eq_nil_iff.mp hnil v hv
  cases hfind : old.find? (·.name == namespaceName) with
  | none =>
    rw [hfind] at hdeclared
    obtain hsame | ⟨_, hadded⟩ := h.filter_cases
    · exact absurd (hsame.trans hdeclared) hne
    · exact hadded
  | some v =>
    rw [hfind] at hdeclared
    obtain hsame | ⟨hnil, _⟩ := h.filter_cases
    · exact hsame.trans hdeclared
    · cases hdeclared.symm.trans hnil

/-! ### Lists of variables that widen -/

lemma widens_of_distinct (h : Distinct vars)
    (reference : ∀ v ∈ vars, v.name = namespaceName → v = namespaceVariable) :
    Widens [] vars := by
  induction vars using List.reverseRecOn with
  | nil => exact .refl
  | append_singleton vars v ih =>
    unfold Distinct at h
    rw [List.map_append, List.nodup_append] at h
    obtain ⟨hvars, _, hfresh⟩ := h
    have hwidens := ih hvars fun u hu => reference u (List.mem_append_left _ hu)
    refine hwidens.push ?_ (reference v (by simp))
    intro hmem
    exact hfresh _ hmem _ (by simp) rfl

/-- Variables are added under the names that are missing. -/
lemma widens_addMissing {base more : List EnvVar} (h : Widens [] more) :
    Widens base (KeyedList.addMissing (·.name) base more) := by
  -- By the order in which `more` was built: what precedes a variable does not have its name.
  induction h with
  | refl => simpa [KeyedList.addMissing] using Widens.refl
  | @push vars v _ fresh reference ih =>
    unfold KeyedList.addMissing at ih ⊢
    rw [List.filter_append, ← List.append_assoc]
    by_cases hbase : v.name ∈ base.map (·.name)
    · have hskipped : [v].filter (fun a => !(base.map (·.name)).contains a.name) = [] := by
        simpa using hbase
      rw [hskipped, List.append_nil]
      exact ih
    · have hadded : [v].filter (fun a => !(base.map (·.name)).contains a.name) = [v] := by
        simpa using hbase
      rw [hadded]
      refine ih.push ?_ reference
      simp only [List.map_append, List.mem_append, not_or]
      refine ⟨hbase, fun hmem => fresh ?_⟩
      exact List.map_subset _ (List.filter_subset_self _) hmem

/-! ### What enrichers add -/

/-- The variables of the entries whose names can be configured. -/
def admittedVars (entries : List (String × String)) : List EnvVar :=
  (entries.filter fun e => !Text.isBlank e.1 && e.1 != namespaceName).map fun e =>
    variableOf e.1 e.2

lemma returns_admits (name value : String) :
    (admits name value).Returns (!Text.isBlank name && name != namespaceName) :=
  Enricher.Images.returns_admits_iff.mpr (by simp [Enricher.Images.Admitted])

lemma returns_envVars (entries : List (String × String)) :
    (envVars entries).Returns (admittedVars entries) := by
  induction entries with
  | nil => exact Logged.returns_pure.mpr rfl
  | cons entry rest ih =>
    obtain ⟨name, value⟩ := entry
    refine Logged.returns_bind.mpr
      ⟨_, returns_admits name value, Logged.returns_bind.mpr ⟨_, ih, ?_⟩⟩
    rw [Logged.returns_pure]
    unfold admittedVars
    rw [List.filter_cons]
    split <;> rfl

lemma names_admittedVars (entries : List (String × String)) :
    (admittedVars entries).map (·.name) =
      (entries.filter fun e => !Text.isBlank e.1 && e.1 != namespaceName).map (·.1) :=
  List.map_map

lemma mem_names_admittedVars {entries : List (String × String)} {name : String} :
    name ∈ (admittedVars entries).map (·.name) ↔
      Enricher.Images.Admitted name ∧ name ∈ entries.map (·.1) := by
  unfold Enricher.Images.Admitted
  rw [names_admittedVars]
  simp only [List.mem_map, List.mem_filter, Bool.and_eq_true, Bool.not_eq_true', bne_iff_ne]
  constructor
  · rintro ⟨e, ⟨he, hname⟩, rfl⟩
    exact ⟨hname, e, he, rfl⟩
  · rintro ⟨hname, e, he, rfl⟩
    exact ⟨e, ⟨he, hname⟩, rfl⟩

lemma name_ne_of_mem_admittedVars {entries : List (String × String)} {v : EnvVar}
    (hv : v ∈ admittedVars entries) : v.name ≠ namespaceName :=
  (mem_names_admittedVars.mp (List.mem_map_of_mem hv)).1.2

lemma distinct_admittedVars (m : SortedMap String) : Distinct (admittedVars m.toList) := by
  unfold Distinct
  rw [names_admittedVars]
  exact m.nodup_keys.sublist (List.filter_sublist.map _)

/-- What is built are the variables of the configured and provided entries, then the namespace. -/
lemma exists_of_returns_build {configured : SortedMap String} {provider : Provider}
    (h : (build configured provider).Returns vars) : ∃ provided : SortedMap String,
      vars = admittedVars (configured.fill provided).toList ++ [namespaceVariable] := by
  unfold build at h
  split at h
  all_goals
    simp only [Logged.returns_bind, Logged.returns_pure] at h
    obtain ⟨provided, _, admitted, hadmitted, rfl⟩ := h
    exact ⟨provided, congrArg (· ++ _) (hadmitted.unique (returns_envVars _))⟩

/-- What is built has distinct names and refers to the namespace, whatever is configured. -/
lemma widens_build {configured : SortedMap String} {provider : Provider}
    (h : (build configured provider).Returns vars) :
    Widens [] vars ∧ namespaceName ∈ vars.map (·.name) := by
  obtain ⟨provided, rfl⟩ := exists_of_returns_build h
  have hadmitted : Widens [] (admittedVars (configured.fill provided).toList) :=
    widens_of_distinct (distinct_admittedVars _) fun v hv hname =>
      absurd hname (name_ne_of_mem_admittedVars hv)
  refine ⟨hadmitted.push ?_ fun _ => rfl, by simp [namespaceVariable]⟩
  intro hmem
  obtain ⟨v, hv, hname⟩ := List.mem_map.mp hmem
  exact name_ne_of_mem_admittedVars hv hname

end Environment

/-! ### Containers -/

namespace Container

/-- The variables of one container widen those of another. -/
def Widens (c d : Container) : Prop := Environment.Widens c.vars d.vars

lemma Widens.refl (c : Container) : c.Widens c := Environment.Widens.refl

lemma Widens.trans {c d e : Container} (h : c.Widens d) (h' : d.Widens e) : c.Widens e :=
  Environment.Widens.trans h h'

lemma widens_of_env {c d : Container} (h : d.env = c.env) : c.Widens d := by
  unfold Widens vars
  rw [h]
  exact .refl

lemma widens_fill {fallback : Container} (h : Container.Widens default fallback) (c : Container) :
    c.Widens (c.fill fallback) := by
  unfold Widens vars fill
  dsimp only
  cases hmore : fallback.env with
  | none => exact .refl
  | some more =>
    apply Environment.widens_addMissing
    unfold Widens vars at h
    rwa [hmore] at h

end Container

namespace Enricher.Images

variable {c : Context} {image : Config.Image} {container new : Container} {env vars : List EnvVar}

lemma widens_addVariables {entries : List (String × String)}
    (h : (addVariables env entries).Returns vars) : Environment.Widens env vars := by
  induction entries generalizing env with
  | nil =>
    cases Logged.returns_pure.mp h
    exact .refl
  | cons entry rest ih =>
    obtain ⟨name, value⟩ := entry
    rw [addVariables, Logged.returns_bind] at h
    obtain ⟨admitted, hadmits, h⟩ := h
    rw [returns_admits_iff] at hadmits
    split at h
    next hadmitted =>
      split at h
      next hnone =>
        have hadded : Environment.Widens env (env ++ [Environment.variableOf name value]) := by
          refine Environment.Widens.refl.push ?_ fun hname => ?_
          · simpa [Environment.variableOf] using hnone
          · exact absurd hname (hadmits.mp hadmitted).2
        exact hadded.trans (ih h)
      next =>
        split at h
        · exact ih h
        · obtain ⟨_, _, h⟩ := Logged.returns_bind.mp h
          exact ih h
    next => exact ih h

lemma widens_addNamespace (env : List EnvVar) :
    Environment.Widens env (addNamespace env) ∧
      Environment.namespaceName ∈ (addNamespace env).map (·.name) := by
  unfold addNamespace
  split
  next hany =>
    refine ⟨.refl, ?_⟩
    simpa using hany
  next hnone =>
    refine ⟨Environment.Widens.refl.push ?_ fun _ => rfl, ?_⟩
    · simpa [Environment.namespaceVariable] using hnone
    · simp [Environment.namespaceVariable]

lemma widens_fillContainer (h : (fillContainer c image container).Returns new) :
    container.Widens new ∧ Environment.namespaceName ∈ new.vars.map (·.name) := by
  rw [fillContainer, Logged.returns_bind] at h
  obtain ⟨env, henv, h⟩ := h
  cases Logged.returns_pure.mp h
  obtain ⟨hwidens, hnamespace⟩ := widens_addNamespace env
  exact ⟨(widens_addVariables henv).trans hwidens, hnamespace⟩

end Enricher.Images

namespace Blueprint

lemma env_attach {volumes : List String} {container new : Container}
    (h : (attach volumes container).Returns new) : new.env = container.env := by
  obtain ⟨_, rfl⟩ := exists_mounts_of_attach h
  rfl

/-- The containers of a blueprint have the variables that were built. -/
lemma widens_podTemplate {b : Blueprint} {images : List Config.Image} {t : PodTemplateSpec}
    (h : (b.podTemplate images).Returns t) :
    ∀ container ∈ (t.spec.getD default).containers, Container.Widens default container ∧
      Environment.namespaceName ∈ container.vars.map (·.name) := by
  intro container hcontainer
  obtain ⟨image, made, hmade, hattached⟩ := (containers_podTemplate h).2 container hcontainer
  simp only [Blueprint.container, Logged.returns_bind, Logged.returns_pure] at hmade
  obtain ⟨ports, _, env, henv, rfl⟩ := hmade
  have hvars : container.vars = env := by
    rw [Container.vars, env_attach hattached]
    rfl
  unfold Container.Widens
  rw [hvars]
  exact Environment.widens_build henv

end Blueprint

end Manifests
