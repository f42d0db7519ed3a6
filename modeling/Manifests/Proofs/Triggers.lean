import Manifests.Proofs.Repetition.Pods
import Manifests.Proofs.Text

/-! The triggers that a deployment config gets on the images of its containers, container by
container.  A container calls for a trigger if none names it yet; as the triggers of the containers
in front of it count as well, the first container of a name is the one that is served. -/
namespace Manifests

/-- The containers that a trigger is for. -/
def DeploymentTrigger.containerNames (t : DeploymentTrigger) : List String :=
  (t.imageChangeParams.map (·.containerNames)).getD []

namespace Enricher.ImageTriggers

variable {c : Context} {old triggers : List DeploymentTrigger} {container x : Container}

/-- The setting lists the name, as what stands between two commas without the blanks around it. -/
def IsListed (c : Context) (container : String) : Prop :=
  ∃ piece ∈ (c.textOr name containersKey "").toList.splitOn ',',
    Text.Trims piece container.toList

/-- A container with a name and an image is to be triggered if all are, if it is listed or if it
runs an image of the build. -/
def Qualifies (c : Context) (x : Container) : Prop :=
  x.name ≠ "" ∧ ∃ image, x.image = some image ∧ image ≠ "" ∧
    (c.isOn name enrichAllKey = true ∨ IsListed c x.name ∨
      ∃ i ∈ c.images, i.reference? = some image)

/-- Some trigger is for the container. -/
def Named (triggers : List DeploymentTrigger) (container : String) : Prop :=
  ∃ t ∈ triggers, container ∈ t.containerNames

lemma Named.mono {more : List DeploymentTrigger} {container : String}
    (h : Named triggers container) (hmore : triggers ⊆ more) : Named more container := by
  obtain ⟨t, ht, hcontainer⟩ := h
  exact ⟨t, hmore ht, hcontainer⟩

/-- No given trigger is for the container, and it is the first of its name to be triggered. -/
structure IsServed (c : Context) (old : List DeploymentTrigger) (front : List Container)
    (x : Container) : Prop where
  qualifies : Qualifies c x
  unnamed : ¬Named old x.name
  first : ∀ y ∈ front, Qualifies c y → y.name ≠ x.name

lemma mem_listedNames_iff {container : String} :
    container ∈ listedNames c ↔ IsListed c container := by
  unfold listedNames IsListed
  rw [List.mem_map, Text.splitAt_eq_splitOn]
  refine exists_congr fun piece => and_congr_right fun _ => ?_
  rw [Text.trims_iff, ← String.toList_inj, String.toList_ofList]

lemma isWanted_iff {container image : String} : isWanted c container image = true ↔
    c.isOn name enrichAllKey = true ∨ IsListed c container ∨
      ∃ i ∈ c.images, i.reference? = some image := by
  simp [isWanted, mem_listedNames_iff, or_assoc]

lemma covers_iff {container : String} : covers triggers container = true ↔
    Named triggers container := by
  unfold covers Named DeploymentTrigger.containerNames
  rw [List.any_eq_true]
  refine exists_congr fun t => and_congr_right fun _ => ?_
  cases t.imageChangeParams <;> simp

@[simp] lemma containerNames_trigger (container image : String) (automatic : Bool) :
    (trigger container image automatic).containerNames = [container] := rfl

lemma newTrigger?_eq_some_iff {t : DeploymentTrigger} :
    newTrigger? c triggers x = some t ↔ Qualifies c x ∧ ¬Named triggers x.name ∧
      ∃ image, x.image = some image ∧ t = trigger x.name image (c.isOn name automaticKey) := by
  unfold newTrigger? Qualifies
  simp only [← covers_iff, ← isWanted_iff]
  constructor
  · intro h
    obtain ⟨image, himage, h⟩ := Option.bind_eq_some_iff.mp h
    obtain ⟨himage, hne⟩ := Option.filter_eq_some_iff.mp himage
    split at h
    next => cases h
    next hnot =>
      cases h
      have hcall : (x.name ≠ "" ∧ ¬covers triggers x.name = true) ∧
          isWanted c x.name image = true := by simpa using hnot
      exact ⟨⟨hcall.1.1, image, himage, by simpa using hne, hcall.2⟩, hcall.1.2, image, himage, rfl⟩
  · rintro ⟨⟨hname, image, himage, hne, hwanted⟩, hcovers, image', himage', rfl⟩
    cases himage.symm.trans himage'
    have hfilter : x.image.filter (· ≠ "") = some image := by
      rw [himage, Option.filter_some, if_pos (by simpa using hne)]
    rw [hfilter]
    simp [hname, hcovers, hwanted]

lemma newTrigger?_eq_none_iff :
    newTrigger? c triggers x = none ↔ (Qualifies c x → Named triggers x.name) := by
  rw [Option.eq_none_iff_forall_ne_some]
  simp only [ne_eq, newTrigger?_eq_some_iff]
  constructor
  · intro h hqualifies
    by_contra hnamed
    obtain ⟨image, himage, _⟩ := hqualifies.2
    exact h _ ⟨hqualifies, hnamed, image, himage, rfl⟩
  · rintro h _ ⟨hqualifies, hnamed, _⟩
    exact hnamed (h hqualifies)

lemma isSome_newTrigger?_iff :
    (newTrigger? c triggers x).isSome = true ↔ IsServed c triggers [] x := by
  rw [Option.isSome_iff_ne_none, ne_eq, newTrigger?_eq_none_iff, Classical.not_imp]
  constructor
  · rintro ⟨hqualifies, hnamed⟩
    exact ⟨hqualifies, hnamed, by simp⟩
  · exact fun h => ⟨h.qualifies, h.unnamed⟩

/-! ### One container after the other -/

/-- The triggers once a container has got the one that it calls for. -/
def next (c : Context) (triggers : List DeploymentTrigger) (x : Container) :
    List DeploymentTrigger :=
  triggers ++ (newTrigger? c triggers x).toList

lemma named_next_iff {container : String} : Named (next c triggers x) container ↔
    Named triggers container ∨ (Qualifies c x ∧ x.name = container) := by
  unfold next
  cases hnew : newTrigger? c triggers x with
  | none =>
    have hcalls := newTrigger?_eq_none_iff.mp hnew
    rw [Option.toList_none, List.append_nil]
    refine ⟨.inl, Or.rec id ?_⟩
    rintro ⟨hqualifies, rfl⟩
    exact hcalls hqualifies
  | some t =>
    obtain ⟨hqualifies, _, image, _, rfl⟩ := newTrigger?_eq_some_iff.mp hnew
    simp [Named, or_and_right, exists_or, hqualifies, eq_comm]

/-- A container behind others is served if it is once they are. -/
lemma isServed_next_iff {front : List Container} {y : Container} :
    IsServed c (next c triggers x) front y ↔ IsServed c triggers (x :: front) y := by
  constructor
  · rintro ⟨hqualifies, hunnamed, hfirst⟩
    rw [named_next_iff, not_or, not_and] at hunnamed
    exact ⟨hqualifies, hunnamed.1, List.forall_mem_cons.mpr ⟨hunnamed.2, hfirst⟩⟩
  · rintro ⟨hqualifies, hunnamed, hfirst⟩
    obtain ⟨hx, hfirst⟩ := List.forall_mem_cons.mp hfirst
    refine ⟨hqualifies, ?_, hfirst⟩
    rw [named_next_iff, not_or, not_and]
    exact ⟨hunnamed, hx⟩

lemma isServed_foldl_next_iff {front : List Container} :
    IsServed c (front.foldl (next c) triggers) [] x ↔ IsServed c triggers front x := by
  induction front generalizing triggers with
  | nil => rfl
  | cons y front ih => rw [List.foldl_cons, ih, isServed_next_iff]

instance (c : Context) (old : List DeploymentTrigger) (front : List Container) (x : Container) :
    Decidable (IsServed c old front x) :=
  decidable_of_iff (newTrigger? c (front.foldl (next c) old) x).isSome
    (isSome_newTrigger?_iff.trans isServed_foldl_next_iff)

/-- The container with a blank image, if images are to be trimmed and it is served. -/
def trimmed (c : Context) (old : List DeploymentTrigger) (front : List Container) (x : Container) :
    Container :=
  if c.isOn name trimImageKey = true ∧ IsServed c old front x then { x with image := some "" }
  else x

lemma trimmed_next {front : List Container} {y : Container} :
    trimmed c (next c triggers x) front y = trimmed c triggers (x :: front) y :=
  if_congr (and_congr_right fun _ => isServed_next_iff) rfl rfl

lemma addTriggers_cons (rest : List Container) : addTriggers c triggers (x :: rest) =
    (trimmed c triggers [] x :: (addTriggers c (next c triggers x) rest).1,
      (addTriggers c (next c triggers x) rest).2) := by
  unfold trimmed next
  rw [addTriggers]
  simp only [← isSome_newTrigger?_iff]
  split
  next hnone => simp [hnone]
  next t ht =>
    rw [ht, trim]
    simp

/-- What is asked of new triggers behind old ones. -/
structure Serves (c : Context) (old : List DeploymentTrigger) (containers : List Container)
    (added : List DeploymentTrigger) : Prop where
  reached : ∀ x ∈ containers, Qualifies c x → Named (old ++ added) x.name
  single : ∀ t ∈ added, ∃ x ∈ containers, Qualifies c x ∧ t.containerNames = [x.name]
  distinct : added.Pairwise fun t u => t.containerNames.Disjoint u.containerNames
  fresh : ∀ t ∈ added, ∀ container ∈ t.containerNames, ¬Named old container

/-- New triggers for the containers behind one, with the one that it calls for in front of them. -/
lemma Serves.cons {rest : List Container} {added : List DeploymentTrigger}
    (h : Serves c (next c old x) rest added) :
    Serves c old (x :: rest) ((newTrigger? c old x).toList ++ added) := by
  have hfresh : ∀ t ∈ added, ∀ container ∈ t.containerNames,
      ¬Named old container ∧ (Qualifies c x → x.name ≠ container) := by
    intro t ht container hcontainer
    have hnot := h.fresh t ht container hcontainer
    rwa [named_next_iff, not_or, not_and] at hnot
  have hnew : ∀ t ∈ (newTrigger? c old x).toList,
      Qualifies c x ∧ ¬Named old x.name ∧ t.containerNames = [x.name] := by
    intro t ht
    obtain ⟨hqualifies, hunnamed, _, _, rfl⟩ := newTrigger?_eq_some_iff.mp (Option.mem_toList.mp ht)
    exact ⟨hqualifies, hunnamed, rfl⟩
  refine ⟨?reached, ?single, ?distinct, ?fresh⟩
  case reached =>
    rw [← List.append_assoc]
    refine List.forall_mem_cons.mpr ⟨fun hqualifies => ?_, h.reached⟩
    exact (named_next_iff.mpr (.inr ⟨hqualifies, rfl⟩)).mono (List.subset_append_left _ _)
  case single =>
    refine List.forall_mem_append.mpr ⟨fun t ht => ?_, fun t ht => ?_⟩
    · obtain ⟨hqualifies, _, hnames⟩ := hnew t ht
      exact ⟨x, List.mem_cons_self, hqualifies, hnames⟩
    · obtain ⟨y, hy, hqualifies, hnames⟩ := h.single t ht
      exact ⟨y, List.mem_cons_of_mem x hy, hqualifies, hnames⟩
  case distinct =>
    refine List.pairwise_append.mpr ⟨?_, h.distinct, fun t ht u hu => ?_⟩
    · cases newTrigger? c old x <;> simp
    · obtain ⟨hqualifies, _, hnames⟩ := hnew t ht
      rw [hnames, List.singleton_disjoint]
      exact fun hcontainer => (hfresh u hu _ hcontainer).2 hqualifies rfl
  case fresh =>
    refine List.forall_mem_append.mpr ⟨fun t ht => ?_, fun t ht container hcontainer => ?_⟩
    · obtain ⟨_, hunnamed, hnames⟩ := hnew t ht
      rw [hnames]
      simpa using hunnamed
    · exact (hfresh t ht container hcontainer).1

/-- The triggers of a run over all containers stand behind the old ones. -/
lemma exists_serves (old : List DeploymentTrigger) (containers : List Container) :
    ∃ added, (addTriggers c old containers).2 = old ++ added ∧ Serves c old containers added := by
  induction containers generalizing old with
  | nil => exact ⟨[], (List.append_nil old).symm, by simp, by simp, .nil, by simp⟩
  | cons x rest ih =>
    obtain ⟨added, hadded, hserves⟩ := ih (next c old x)
    refine ⟨_, ?_, hserves.cons⟩
    rw [addTriggers_cons, hadded, next, List.append_assoc]

/-- Every container is trimmed by what stands in front of it before the run. -/
lemma fst_addTriggers (old : List DeploymentTrigger) (containers : List Container) :
    (addTriggers c old containers).1 =
      containers.mapIdx fun i x => trimmed c old (containers.take i) x := by
  induction containers generalizing old with
  | nil => rfl
  | cons x rest ih =>
    rw [addTriggers_cons, ih, List.mapIdx_cons]
    simp only [trimmed_next, List.take_zero, List.take_succ_cons]

/-- **Every container to be triggered gets one trigger.**  New triggers stand behind the old ones,
and no empty list of them is kept; a container is changed only if it is served and images are to be
trimmed, and then its image is blanked. -/
theorem serves_adapt {before : Collection} {i : Nat} {r : Resource} {version : String}
    {spec : DeploymentConfigSpec} {t : PodTemplateSpec} {pod : PodSpec} (hr : before[i]? = some r)
    (hcontent : r.content = .deploymentConfig version (some spec)) (ht : spec.template = some t)
    (hpod : t.spec = some pod) :
    ∃ after added, ((enricher c).adapt .openshift before).Returns after ∧
      Serves c (spec.triggers.getD []) pod.containers added ∧
      after[i]? = some { r with content := .deploymentConfig version (some { spec with
        template := some { t with spec := some { pod with
          containers := pod.containers.mapIdx fun i x =>
            trimmed c (spec.triggers.getD []) (pod.containers.take i) x } }
        triggers := if spec.triggers.getD [] ++ added = [] then none
          else some (spec.triggers.getD [] ++ added) }) } := by
  obtain ⟨added, hadded, hserves⟩ := exists_serves (c := c) (spec.triggers.getD []) pod.containers
  refine ⟨before.map (adaptResource c), added, Logged.returns_pure.mpr rfl, hserves, ?_⟩
  have hspec : spec.template.bind (·.spec) = some pod := by rw [ht, Option.bind_some, hpod]
  rw [List.getElem?_map, hr, Option.map_some, adaptResource, hcontent]
  dsimp only
  rw [Option.map_some, adaptSpec_of_pod hspec, hadded, fst_addTriggers, ht, nonEmptyTriggers?]
  simp only [List.isEmpty_iff]
  rfl

/-- Every container is to be triggered, and its image taken away. -/
def trimmingContext : Context where
  project := default
  images := []
  policy := default
  selection := ((default : Config.Selection).withSetting name enrichAllKey.name "true").withSetting
    name trimImageKey.name "true"
  envDefaults := none

/-- Two containers of one name, and one that has a trigger already. -/
def twinPod : PodSpec :=
  let container (name image : String) : Container :=
    { (default : Container) with name, image := some image }
  { (default : PodSpec) with
    containers := [container "web" "acme/web:1", container "proxy" "envoy",
      container "web" "acme/web:2"] }

def twinTemplate : PodTemplateSpec :=
  { (default : PodTemplateSpec) with spec := some twinPod }

def twins : DeploymentConfigSpec :=
  { (default : DeploymentConfigSpec) with
    template := some twinTemplate, triggers := some [trigger "proxy" "envoy" true] }

/-- The first of the two gets the trigger. -/
theorem serves_adapt_twins :
    let r : Resource := ⟨default, .deploymentConfig "v1" (some twins)⟩
    [r][0]? = some r ∧ twins.template = some twinTemplate ∧ twinTemplate.spec = some twinPod ∧
      ∃ after added, ((enricher trimmingContext).adapt .openshift [r]).Returns after ∧
        Serves trimmingContext [trigger "proxy" "envoy" true] twinPod.containers added ∧
        ∃ s, after[0]? = some s ∧ (s.podSpec?.map (·.containers.map (·.image))) =
          some [some "", some "envoy", some "acme/web:2"] := by
  intro r
  have hr : [r][0]? = some r := rfl
  have hcontent : r.content = .deploymentConfig "v1" (some twins) := rfl
  obtain ⟨after, added, h, hserves, hafter⟩ :=
    serves_adapt (c := trimmingContext) hr hcontent rfl rfl
  have himages : (twinPod.containers.mapIdx fun i x =>
      trimmed trimmingContext [trigger "proxy" "envoy" true] (twinPod.containers.take i) x).map
        (·.image) = [some "", some "envoy", some "acme/web:2"] := by decide +kernel
  exact ⟨hr, rfl, rfl, after, added, h, hserves, _, hafter, congrArg some himages⟩

end Enricher.ImageTriggers
end Manifests
