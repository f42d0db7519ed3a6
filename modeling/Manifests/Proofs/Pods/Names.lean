import Mathlib.Data.List.Pairwise
import Manifests.Proofs.Pods.Defaults

/-! The names of the containers that images give.  An image without an alias is named after its user
and the project, so two such images clash when their users agree up to case. -/
namespace Manifests

/-! ### Lower case around a hyphen -/

namespace Text

open LetterCase

/-- No word goes on across a hyphen, which has no case and is not passed over. -/
lemma startsCased_hyphen (cs rest : List Char) :
    startsCased (cs ++ '-' :: rest) = startsCased cs := by
  induction cs with
  | nil =>
    have hstop : isIgnorable '-' = false := by decide +kernel
    have huncased : isCased '-' = false := by decide +kernel
    rw [startsCased, List.nil_append, List.dropWhile_cons_of_neg (by simp [hstop])]
    exact huncased
  | cons c cs ih =>
    unfold startsCased at ih ⊢
    rw [List.cons_append]
    by_cases hc : isIgnorable c = true
    · rw [List.dropWhile_cons_of_pos hc, List.dropWhile_cons_of_pos hc, ih]
    · rw [List.dropWhile_cons_of_neg hc, List.dropWhile_cons_of_neg hc]

/-- What stands in front of a hyphen makes no difference behind it. -/
lemma lowerAfter_of_hyphen (word before cs : List Char) :
    lowerAfter (word ++ '-' :: before) cs = lowerAfter word cs := by
  induction cs generalizing word with
  | nil => rfl
  | cons c cs ih =>
    have hrest := ih (c :: word)
    rw [List.cons_append] at hrest
    rw [lowerAfter, lowerAfter, startsCased_hyphen, hrest]

lemma lowerAfter_append_hyphen (before cs rest : List Char) :
    lowerAfter before (cs ++ '-' :: rest) = lowerAfter before cs ++ '-' :: lowerAfter [] rest := by
  induction cs generalizing before with
  | nil =>
    have hrest := lowerAfter_of_hyphen [] before rest
    rw [List.nil_append] at hrest
    rw [List.nil_append, lowerAfter, lowerAfter, hrest]
    rfl
  | cons c cs ih =>
    rw [List.cons_append, lowerAfter, lowerAfter, startsCased_hyphen, ih, List.append_assoc]

/-- The texts on both sides of a hyphen are lowered on their own. -/
lemma lower_hyphen (s t : String) : lower (s ++ "-" ++ t) = lower s ++ "-" ++ lower t := by
  apply String.toList_inj.mp
  have hlist := lowerAfter_append_hyphen [] s.toList t.toList
  simpa [lower] using hlist

end Text

/-! ### Names of containers -/

namespace Config.Image

variable {p : Project} {i j : Image} {images : List Image}

/-- The alias of an image, unless it is blank. -/
def alias? (i : Image) : Option String := i.containerAlias.filter fun a => !Text.isBlank a

/-- The user in the reference of an image, or the last segment of the group id. -/
def user (p : Project) (i : Image) : String :=
  ((i.name.bind fun n => (ImageReference.parse n).user?).filter (· ≠ "")).getD
    (lastSegment p.groupId)

/-- The name of the container of an image without an alias. -/
def defaultName (p : Project) (i : Image) : String :=
  Text.lower (i.user p) ++ "-" ++ Text.lower p.artifactId

/-- Neither of two images has the default name of the other one as its alias. -/
def Unmixed (p : Project) (i j : Image) : Prop :=
  (j.alias? = none → i.alias? ≠ some (j.defaultName p)) ∧
    (i.alias? = none → j.alias? ≠ some (i.defaultName p))

instance : DecidableRel (Unmixed p) := fun _ _ => inferInstanceAs (Decidable (_ ∧ _))

/-- Images that their aliases and users tell apart. -/
structure NamedApart (p : Project) (images : List Image) : Prop where
  aliases : (images.filterMap alias?).Nodup
  users : ((images.filter (·.alias?.isNone)).map fun i => Text.lower (i.user p)).Nodup
  unmixed : ∀ i ∈ images, ∀ j ∈ images, Unmixed p i j

lemma containerName_eq (p : Project) (i : Image) :
    i.containerName p = i.alias?.getD (i.defaultName p) := by
  unfold containerName defaultName alias?
  rw [← Text.lower_hyphen]
  cases i.containerAlias.filter fun a => !Text.isBlank a <;> rfl

lemma defaultName_inj : i.defaultName p = j.defaultName p ↔
    Text.lower (i.user p) = Text.lower (j.user p) := by
  unfold defaultName
  constructor
  · intro h
    have hlists := congrArg String.toList h
    simp only [String.toList_append] at hlists
    exact String.toList_inj.mp (List.append_cancel_right (List.append_cancel_right hlists))
  · intro h
    rw [h]

/-- Of two images either both have an alias, or neither has, or one is named by default. -/
lemma containerName_ne_iff : i.containerName p ≠ j.containerName p ↔
    (∀ a, i.alias? = some a → ∀ b, j.alias? = some b → a ≠ b) ∧
    (i.alias?.isNone = true → j.alias?.isNone = true →
      Text.lower (i.user p) ≠ Text.lower (j.user p)) ∧
    Unmixed p i j := by
  rw [containerName_eq, containerName_eq, Unmixed]
  cases i.alias? with
  | none =>
    cases j.alias? with
    | none => simp [defaultName_inj]
    | some b => simp [eq_comm]
  | some a => cases j.alias? <;> simp

lemma pairwise_unmixed_iff :
    images.Pairwise (Unmixed p) ↔ ∀ i ∈ images, ∀ j ∈ images, Unmixed p i j := by
  have hsymm : Std.Symm (Unmixed p) := ⟨fun _ _ => And.symm⟩
  -- an image is named by its alias or by default, so it is not mixed up with itself
  have hself : ∀ i ∈ images, Unmixed p i i := fun i _ => by simp +contextual [Unmixed]
  exact ⟨fun h i hi j hj => h.forall_of_forall hself hi hj,
    fun h => List.pairwise_of_forall_mem_list h⟩

lemma nodup_containerName_iff :
    (images.map (·.containerName p)).Nodup ↔ NamedApart p images := by
  have hpairs : (images.map (·.containerName p)).Nodup ↔
      (images.filterMap alias?).Nodup ∧
      ((images.filter (·.alias?.isNone)).map fun i => Text.lower (i.user p)).Nodup ∧
      ∀ i ∈ images, ∀ j ∈ images, Unmixed p i j := by
    rw [← pairwise_unmixed_iff]
    simp only [List.Nodup, List.pairwise_map, List.pairwise_filterMap, List.pairwise_filter,
      containerName_ne_iff, List.pairwise_and_iff]
  rw [hpairs]
  exact ⟨fun ⟨aliases, users, unmixed⟩ => ⟨aliases, users, unmixed⟩,
    fun h => ⟨h.aliases, h.users, h.unmixed⟩⟩

end Config.Image

/-! ### Containers of a build -/

lemma Blueprint.names_containers {b : Blueprint} {images : List Config.Image}
    {containers : List Container} (h : (b.containers images).Returns containers) :
    containers.map (·.name) = images.map (·.containerName b.project) := by
  rw [Blueprint.containers, Logged.returns_mapM] at h
  induction h with
  | nil => rfl
  | cons hfirst _ ih =>
    simp only [Blueprint.container, Logged.returns_bind, Logged.returns_pure] at hfirst
    obtain ⟨ports, _, env, _, rfl⟩ := hfirst
    rw [List.map_cons, List.map_cons, ih]

namespace Enricher.Images

variable {c : Context} {r s : Resource} {image : Config.Image} {images : List Config.Image}
  {container : Container} {containers : List Container}

lemma exists_returns_addVariables (env : List EnvVar) (entries : List (String × String)) :
    ∃ vars, (addVariables env entries).Returns vars := by
  induction entries generalizing env with
  | nil => exact ⟨env, Logged.returns_pure.mpr rfl⟩
  | cons entry rest ih =>
    obtain ⟨name, value⟩ := entry
    apply Logged.exists_returns_bind (Environment.returns_admits name value)
    split
    · split
      · exact ih _
      · split
        · exact ih env
        · exact Logged.exists_returns_bind rfl (ih env)
    · exact ih env

lemma exists_returns_fillContainer (c : Context) (image : Config.Image) (container : Container) :
    ∃ new, (fillContainer c image container).Returns new := by
  obtain ⟨env, henv⟩ := exists_returns_addVariables (container.env.getD []) c.policy.env.toList
  exact Logged.exists_returns_bind henv ⟨_, Logged.returns_pure.mpr rfl⟩

lemma exists_returns_fillContainers (c : Context) (images : List Config.Image)
    (containers : List Container) : ∃ new, (fillContainers c images containers).Returns new := by
  fun_induction fillContainers c images containers with
  | case1 containers => exact ⟨containers, Logged.returns_pure.mpr rfl⟩
  | case2 image images ih =>
    obtain ⟨first, hfirst⟩ := exists_returns_fillContainer c image default
    obtain ⟨rest, hrest⟩ := ih
    exact Logged.exists_returns_bind hfirst
      (Logged.exists_returns_bind hrest ⟨_, Logged.returns_pure.mpr rfl⟩)
  | case3 image images container containers ih =>
    obtain ⟨first, hfirst⟩ := exists_returns_fillContainer c image container
    obtain ⟨rest, hrest⟩ := ih
    exact Logged.exists_returns_bind hfirst
      (Logged.exists_returns_bind hrest ⟨_, Logged.returns_pure.mpr rfl⟩)

lemma exists_returns_complete (c : Context) (r : Resource) : ∃ s, (complete c r).Returns s := by
  unfold complete
  split
  · obtain ⟨containers, hcontainers⟩ := exists_returns_fillContainers c c.images
      ((r.ensureTemplate.podSpec?.map (·.containers)).getD [])
    exact Logged.exists_returns_bind hcontainers ⟨_, Logged.returns_pure.mpr rfl⟩
  · exact ⟨r, Logged.returns_pure.mpr rfl⟩

/-- Where there is no container, all are made from images. -/
lemma names_fillContainers {new : List Container}
    (h : (fillContainers c images []).Returns new) :
    new.map (·.name) = images.map (·.containerName c.project) := by
  induction images generalizing new with
  | nil =>
    cases Logged.returns_pure.mp h
    rfl
  | cons image images ih =>
    rw [fillContainers] at h
    simp only [Logged.returns_bind, Logged.returns_pure, fillContainer] at h
    obtain ⟨first, ⟨env, _, rfl⟩, rest, hrest, rfl⟩ := h
    rw [List.map_cons, List.map_cons, ih hrest]
    rfl

lemma names_complete (h : (complete c r).Returns s) (hkind : r.kind.isController = true)
    (hr : r.pod.containers = []) :
    s.pod.containers.map (·.name) = c.images.map (·.containerName c.project) := by
  obtain ⟨_, hnot⟩ | ⟨containers, hcontainers, hpod⟩ := pod_of_complete h
  · rw [hkind] at hnot
    cases hnot
  · rw [hr] at hcontainers
    rw [hpod]
    exact names_fillContainers hcontainers

/-- The enricher of images always succeeds, and names the containers of a controller that had none
after the images. -/
lemma names_addMissing (c : Context) (platform : Config.Platform) (before : Collection) :
    ∃ after, ((enricher c).addMissing platform before).Returns after ∧
      List.Forall₂ (fun r s => r.kind.isController = true → r.pod.containers = [] →
        s.pod.containers.map (·.name) = c.images.map (·.containerName c.project))
        before after := by
  change ∃ after, (if c.images.isEmpty then pure before else before.mapM (complete c)).Returns
    after ∧ _
  split
  next hempty =>
    refine ⟨before, Logged.returns_pure.mpr rfl, List.forall₂_same.mpr fun r _ _ hr => ?_⟩
    rw [hr, List.isEmpty_iff.mp hempty]
    rfl
  next =>
    obtain ⟨after, hafter⟩ := Logged.exists_returns_mapM (exists_returns_complete c) before
    refine ⟨after, hafter, (Logged.returns_mapM.mp hafter).imp fun r s h => ?_⟩
    exact names_complete h

end Enricher.Images

/-- Containers that are built from images, and those that the enricher of images makes where there
is none, have distinct names exactly when the aliases of the images differ, the users of those
without an alias differ up to case, and no alias is the default name of another image. -/
theorem nodup_names_iff_namedApart (p : Config.Project) (images : List Config.Image) :
    (∀ policy envDefaults containers,
      (Blueprint.containers ⟨p, policy, envDefaults⟩ images).Returns containers →
        ((containers.map (·.name)).Nodup ↔ Config.Image.NamedApart p images)) ∧
    ∀ (c : Enricher.Context) platform before, c.project = p → c.images = images →
      ∃ after, ((Enricher.Images.enricher c).addMissing platform before).Returns after ∧
        List.Forall₂ (fun r s => r.kind.isController = true → r.pod.containers = [] →
          ((s.pod.containers.map (·.name)).Nodup ↔ Config.Image.NamedApart p images))
          before after := by
  constructor
  · intro policy envDefaults containers h
    rw [Blueprint.names_containers h, Config.Image.nodup_containerName_iff]
  · rintro c platform before rfl rfl
    obtain ⟨after, hafter, hnames⟩ := Enricher.Images.names_addMissing c platform before
    refine ⟨after, hafter, hnames.imp fun r s h hkind hr => ?_⟩
    rw [h hkind hr, Config.Image.nodup_containerName_iff]

def shopProject : Config.Project :=
  { (default : Config.Project) with artifactId := "shop", groupId := "org" }

def namedImage (name : String) (containerAlias : Option String) : Config.Image :=
  { (default : Config.Image) with name := some name, containerAlias }

def shopContext (images : List Config.Image) : Enricher.Context where
  project := shopProject
  images := images
  policy := default
  selection := default
  envDefaults := none

def bareDeployment : Resource := ⟨default, .deployment none⟩

/-- Two images of one user, of which one has an alias. -/
def aliasedImages : List Config.Image :=
  [namedImage "org/web" (some "web"), namedImage "org/api" none]

/-- Two images of one user without an alias. -/
def sharedImages : List Config.Image := [namedImage "org/web" none, namedImage "org/api" none]

/-- An alias keeps two images of one user apart. -/
theorem nodup_names_aliased :
    (∃ containers, (Blueprint.containers ⟨shopProject, default, none⟩ aliasedImages).Returns
        containers ∧ (containers.map (·.name)).Nodup) ∧
    ∃ s, ((Enricher.Images.enricher (shopContext aliasedImages)).addMissing .kubernetes
      [bareDeployment]).Returns [s] ∧ (s.pod.containers.map (·.name)).Nodup := by
  have hapart : Config.Image.NamedApart shopProject aliasedImages :=
    ⟨by decide +kernel, by decide +kernel, by decide +kernel⟩
  obtain ⟨hbuilt, hfilled⟩ := nodup_names_iff_namedApart shopProject aliasedImages
  constructor
  · obtain ⟨containers, hcontainers⟩ := Logged.exists_returns
      (x := Blueprint.containers ⟨shopProject, default, none⟩ aliasedImages) (by decide +kernel)
    exact ⟨containers, hcontainers, (hbuilt _ _ containers hcontainers).mpr hapart⟩
  · obtain ⟨after, hafter, hnames⟩ :=
      hfilled (shopContext aliasedImages) .kubernetes [bareDeployment] rfl rfl
    obtain ⟨s, rest, hs, hrest, rfl⟩ := List.forall₂_cons_left_iff.mp hnames
    cases List.forall₂_nil_left_iff.mp hrest
    exact ⟨s, hafter, (hs rfl rfl).mpr hapart⟩

/-- Without one, references of their own do not keep them apart. -/
theorem not_nodup_names_shared :
    (sharedImages.map (·.reference?)).Nodup ∧ (sharedImages.filterMap (·.alias?)).Nodup ∧
    (∃ containers, (Blueprint.containers ⟨shopProject, default, none⟩ sharedImages).Returns
        containers ∧ ¬(containers.map (·.name)).Nodup) ∧
    ∃ s, ((Enricher.Images.enricher (shopContext sharedImages)).addMissing .kubernetes
      [bareDeployment]).Returns [s] ∧ ¬(s.pod.containers.map (·.name)).Nodup := by
  have hshared : ¬(sharedImages.map (·.containerName shopProject)).Nodup := by decide +kernel
  refine ⟨by decide +kernel, by decide +kernel, ?_, ?_⟩
  · obtain ⟨containers, hcontainers⟩ := Logged.exists_returns
      (x := Blueprint.containers ⟨shopProject, default, none⟩ sharedImages) (by decide +kernel)
    refine ⟨containers, hcontainers, ?_⟩
    rwa [Blueprint.names_containers hcontainers]
  · obtain ⟨after, hafter, hnames⟩ := Enricher.Images.names_addMissing (shopContext sharedImages)
      .kubernetes [bareDeployment]
    obtain ⟨s, rest, hs, hrest, rfl⟩ := List.forall₂_cons_left_iff.mp hnames
    cases List.forall₂_nil_left_iff.mp hrest
    refine ⟨s, hafter, ?_⟩
    rwa [hs rfl rfl]

end Manifests
