import Mathlib.Algebra.GroupWithZero.Nat
import Manifests.Proofs.Repetition.Controllers

/-! How far the filling of gaps has come.  Parts are weighed by what may still replace them, so that
every filling either makes progress or leaves its part alone: what comes back to its start has not
been filled. -/
namespace Manifests

section Advances
variable {α : Type} {μ : α → Nat} {x y z : α}

/-- A change that makes progress, if it is one. -/
structure Advances (μ : α → Nat) (x y : α) : Prop where
  le : μ x ≤ μ y
  eq_of_le : μ y ≤ μ x → y = x

lemma Advances.refl (x : α) : Advances μ x x := ⟨Nat.le_refl _, fun _ => rfl⟩

lemma Advances.of_lt (h : μ x < μ y) : Advances μ x y := ⟨h.le, fun h' => absurd h h'.not_gt⟩

lemma Advances.trans (h : Advances μ x y) (h' : Advances μ y z) : Advances μ x z where
  le := h.le.trans h'.le
  eq_of_le hle := by
    rw [h'.eq_of_le (hle.trans h.le), h.eq_of_le (h'.le.trans hle)]

/-- Every item counts by itself, and by its progress. -/
def totalProgress (μ : α → Nat) (l : List α) : Nat := (l.map fun a => μ a + 1).sum

lemma totalProgress_cons (μ : α → Nat) (a : α) (l : List α) :
    totalProgress μ (a :: l) = μ a + 1 + totalProgress μ l := by
  rw [totalProgress, List.map_cons, List.sum_cons]
  rfl

lemma totalProgress_le {l m : List α} (h : List.Forall₂ (fun a b => μ a ≤ μ b) l m) :
    totalProgress μ l ≤ totalProgress μ m := by
  induction h with
  | nil => exact Nat.le_refl _
  | cons hab _ ih =>
    rw [totalProgress_cons, totalProgress_cons]
    omega

lemma KeepsItems.advances {l m : List α} (h : KeepsItems (Advances μ) l m) :
    Advances (totalProgress μ) l m := by
  induction l generalizing m with
  | nil =>
    cases m with
    | nil => exact .refl []
    | cons b m =>
      refine .of_lt ?_
      rw [totalProgress_cons]
      change 0 < _
      omega
  | cons a l ih =>
    obtain ⟨b, m, rfl, hab, hlm⟩ := h.exists_cons
    obtain ⟨hle, heq⟩ := ih hlm
    have hable := hab.le
    refine ⟨by rw [totalProgress_cons, totalProgress_cons]; omega, fun hnew => ?_⟩
    rw [totalProgress_cons, totalProgress_cons] at hnew
    rw [hab.eq_of_le (by omega), heq (by omega)]

end Advances

/-! ### Fields -/

section Fields
variable {α : Type} {d : String}

/-- A text that is not blank stays; a blank one may disappear, and an absent one may turn up. -/
def textProgress : Option String → Nat
  | none => 1
  | some s => if Text.isBlank s then 0 else 2

/-- A name that is not blank stays; another one may be replaced by the default name. -/
def nameProgress (d : String) (name : Option String) : Nat :=
  if (name.bind Text.nonBlank?).isSome then 2 else if name = some d then 1 else 0

/-- A list that is there only grows. -/
def listProgress : Option (List α) → Nat
  | none => 0
  | some l => l.length + 1

def partProgress (x : Option α) : Nat := if x.isSome then 1 else 0

lemma textProgress_le {value : Option String} (h : ¬(value.bind Text.nonBlank?).isSome = true) :
    textProgress value ≤ 1 := by
  rw [isSome_bind_nonBlank?] at h
  cases value with
  | none => exact Nat.le_refl 1
  | some s =>
    have hs : Text.isBlank s = true := by simpa using h
    simp [textProgress, hs]

lemma advances_fillText {value fallback : Option String}
    (h : ∀ s, fallback = some s → Text.isBlank s = false) :
    Advances textProgress value (fillText value fallback) := by
  unfold fillText
  split
  next => exact .refl _
  next hvalue =>
    have hle := textProgress_le hvalue
    cases fallback with
    | some s =>
      refine .of_lt (Nat.lt_of_le_of_lt hle ?_)
      simp [textProgress, h s rfl]
    | none =>
      refine ⟨hle, fun hone => ?_⟩
      cases value with
      | none => rfl
      | some s =>
        rw [isSome_bind_nonBlank?] at hvalue
        have hs : Text.isBlank s = true := by simpa using hvalue
        simp [textProgress, hs] at hone

/-- A text to fall back on that is not blank. -/
lemma advances_fillText_some {fallback : String} (h : Text.isBlank fallback = false)
    (value : Option String) : Advances textProgress value (fillText value (some fallback)) := by
  refine advances_fillText fun s hs => ?_
  cases hs
  exact h

lemma advances_name {name : Option String} {new : String}
    (hname : (name.bind Text.nonBlank?).isSome = false)
    (hnew : Text.isBlank new = false ∨ new = d) : Advances (nameProgress d) name (some new) := by
  have hold : nameProgress d name = if name = some d then 1 else 0 := by
    rw [nameProgress, hname]
    rfl
  by_cases hblank : Text.isBlank new = false
  · have hnonblank : nameProgress d (some new) = 2 :=
      if_pos (isSome_bind_nonBlank?.mpr ⟨new, rfl, hblank⟩)
    refine .of_lt ?_
    rw [hold, hnonblank]
    split <;> decide
  · obtain rfl := hnew.resolve_left hblank
    have hdefault : 1 ≤ nameProgress new (some new) := by
      unfold nameProgress
      split <;> simp
    rw [eq_comm] at hold
    by_cases hsame : name = some new
    · exact hsame ▸ .refl _
    · rw [if_neg hsame] at hold
      exact .of_lt (by omega)

lemma advances_list {old new : Option (List α)} (h : KeepsPart (· <+: ·) old new) :
    Advances listProgress old new := by
  cases old with
  | none =>
    cases new with
    | none => exact .refl none
    | some m => exact .of_lt (Nat.succ_pos _)
  | some l =>
    obtain ⟨m, rfl, hlm⟩ := h l rfl
    refine ⟨Nat.succ_le_succ hlm.length_le, fun hle => ?_⟩
    rw [hlm.eq_of_length_le (Nat.le_of_succ_le_succ hle)]

lemma advances_part {old new : Option α} (h : Keeps old new) : Advances partProgress old new := by
  cases old with
  | some a =>
    rw [h a rfl]
    exact .refl _
  | none =>
    cases new with
    | none => exact .refl none
    | some a => exact .of_lt Nat.one_pos

lemma KeyedList.keepsPart_merge? {merge : List α → List α → List α}
    (h : ∀ base more, base <+: merge base more) (base more : Option (List α)) :
    KeepsPart (· <+: ·) base (merge? merge base more) := by
  rintro l rfl
  cases more with
  | none => exact ⟨l, rfl, List.prefix_rfl⟩
  | some more => exact ⟨_, rfl, h l more⟩

end Fields

/-! ### Containers -/

namespace Container

variable {d : String} {c new fallback : Container}

def progress (d : String) (c : Container) : Nat :=
  nameProgress d (some c.name) + textProgress c.image + textProgress c.imagePullPolicy +
    listProgress c.env + listProgress c.ports + listProgress c.volumeMounts +
    partProgress c.readinessProbe + partProgress c.livenessProbe + partProgress c.securityContext

/-- An extension makes progress as its texts and lists do. -/
lemma Extends.advances (h : c.Extends new)
    (name : Advances (nameProgress d) (some c.name) (some new.name))
    (image : Advances textProgress c.image new.image)
    (imagePullPolicy : Advances textProgress c.imagePullPolicy new.imagePullPolicy)
    (env : KeepsPart (· <+: ·) c.env new.env) (ports : KeepsPart (· <+: ·) c.ports new.ports)
    (volumeMounts : KeepsPart (· <+: ·) c.volumeMounts new.volumeMounts) :
    Advances (progress d) c new := by
  have env := advances_list env
  have ports := advances_list ports
  have mounts := advances_list volumeMounts
  have readiness := advances_part h.readinessProbe
  have liveness := advances_part h.livenessProbe
  have security := advances_part h.securityContext
  obtain ⟨hname, hname'⟩ := name
  obtain ⟨himage, himage'⟩ := image
  obtain ⟨hpolicy, hpolicy'⟩ := imagePullPolicy
  obtain ⟨henv, henv'⟩ := env
  obtain ⟨hports, hports'⟩ := ports
  obtain ⟨hmounts, hmounts'⟩ := mounts
  obtain ⟨hreadiness, hreadiness'⟩ := readiness
  obtain ⟨hliveness, hliveness'⟩ := liveness
  obtain ⟨hsecurity, hsecurity'⟩ := security
  unfold progress
  refine ⟨by omega, fun hle => ?_⟩
  -- No summand has grown, so no field has changed.
  calc new = { new.bare with
        name := new.name, image := new.image, imagePullPolicy := new.imagePullPolicy,
        env := new.env, ports := new.ports, volumeMounts := new.volumeMounts,
        readinessProbe := new.readinessProbe, livenessProbe := new.livenessProbe,
        securityContext := new.securityContext } := rfl
    _ = { c.bare with
        name := c.name, image := c.image, imagePullPolicy := c.imagePullPolicy, env := c.env,
        ports := c.ports, volumeMounts := c.volumeMounts, readinessProbe := c.readinessProbe,
        livenessProbe := c.livenessProbe, securityContext := c.securityContext } := by
      rw [h.bare, Option.some.inj (hname' (by omega)), himage' (by omega), hpolicy' (by omega),
        henv' (by omega), hports' (by omega), hmounts' (by omega), hreadiness' (by omega),
        hliveness' (by omega), hsecurity' (by omega)]
    _ = c := rfl

/-- A default container whose texts are not blank. -/
structure Sound (d : String) (c : Container) : Prop where
  name : Text.isBlank c.name = false ∨ c.name = d
  image : ∀ s, c.image = some s → Text.isBlank s = false
  imagePullPolicy : ∀ s, c.imagePullPolicy = some s → Text.isBlank s = false

lemma advances_rename {name : String} (hc : Text.isBlank c.name = true)
    (hname : Text.isBlank name = false ∨ name = d) :
    Advances (progress d) c { c with name } := by
  refine (extends_rename hc name).advances ?_ (.refl _) (.refl _)
    (.refl (fun _ => List.prefix_rfl) _) (.refl (fun _ => List.prefix_rfl) _)
    (.refl (fun _ => List.prefix_rfl) _)
  exact advances_name (by simp [Text.isSome_nonBlank?, hc]) hname

lemma advances_fill (h : fallback.Sound d) (c : Container) :
    Advances (progress d) c (c.fill fallback) := by
  refine (c.extends_fill fallback).advances ?_ (advances_fillText h.image)
    (advances_fillText h.imagePullPolicy)
    (KeyedList.keepsPart_merge? (KeyedList.addMissing_prefix _) _ _)
    (KeyedList.keepsPart_merge? prefix_addPorts _ _)
    (KeyedList.keepsPart_merge? (KeyedList.addMissing_prefix _) _ _)
  dsimp only [fill]
  split
  next hc => exact advances_name (by simp [Text.isSome_nonBlank?, hc]) h.name
  next => exact .refl _

end Container

namespace PodSpec

variable {d : String} {s fallback : PodSpec}

def progress (d : String) (s : PodSpec) : Nat :=
  totalProgress (Container.progress d) s.containers + partProgress s.serviceAccountName +
    listProgress s.volumes

lemma advances_withContainers {containers : List Container}
    (h : KeepsItems (Advances (Container.progress d)) s.containers containers) :
    Advances (progress d) s (s.withContainers containers) := by
  obtain ⟨hle, heq⟩ := h.advances
  refine ⟨by simp only [progress, withContainers]; omega, fun hnew => ?_⟩
  have hself := heq (by simp only [progress, withContainers] at hnew; omega)
  rw [hself]
  rfl

lemma advances_fill {name : String} (hfallback : ∀ f ∈ fallback.containers, f.Sound d)
    (hname : Text.isBlank name = false ∨ name = d) :
    Advances (progress d) s (s.fill fallback name) := by
  have hitems : KeepsItems (Advances (Container.progress d)) s.containers
      (s.fill fallback name).containers :=
    keepsItems_fill .refl (fun f hf => Container.advances_fill (hfallback f hf))
      fun _ hc => Container.advances_rename hc hname
  obtain ⟨hcontainers, hcontainers'⟩ := hitems.advances
  obtain ⟨haccount, haccount'⟩ :=
    advances_part (Keeps.orElse s.serviceAccountName fallback.serviceAccountName)
  obtain ⟨hvolumes, hvolumes'⟩ := advances_list
    (KeyedList.keepsPart_merge? (KeyedList.addMissing_prefix (·.name)) s.volumes fallback.volumes)
  unfold progress
  refine ⟨?_, fun hnew => ?_⟩
  · dsimp only [fill] at hcontainers ⊢
    omega
  · rw [fill_eq_self_iff]
    dsimp only [fill] at hcontainers hcontainers' hnew
    exact ⟨hcontainers' (by omega), haccount' (by omega), hvolumes' (by omega)⟩

end PodSpec

/-! ### Enrichers of containers -/

namespace Enricher

variable {d : String}

lemma Images.advances_fillContainer {c : Context} {image : Config.Image}
    {container new : Container} (hc : HasPullPolicy c)
    (h : (fillContainer c image container).Returns new) :
    Advances (Container.progress d) container new := by
  have hextends := extends_fillContainer h
  rw [fillContainer, Logged.returns_bind] at h
  obtain ⟨env, henv, h⟩ := h
  cases Logged.returns_pure.mp h
  refine hextends.advances ?_ ?_ ?_ ?_ (.refl (fun _ => List.prefix_rfl) _)
    (.refl (fun _ => List.prefix_rfl) _)
  · dsimp only
    split
    next hname =>
      exact advances_name (by simp [Text.isSome_nonBlank?, hname])
        (.inl (image.isBlank_containerName c.project))
    next => exact .refl _
  · dsimp only
    cases hreference : image.reference? with
    | none =>
      rw [show ((none : Option String) <|> container.image) = container.image from rfl, ite_self]
      exact .refl _
    | some reference =>
      exact advances_fillText_some (Config.Image.isBlank_reference? hreference) container.image
  · exact advances_fillText_some (hc.isBlank_pullPolicy image) container.imagePullPolicy
  · intro declared hdeclared
    rw [hdeclared] at henv
    exact ⟨_, rfl, (prefix_addVariables henv).trans (prefix_addNamespace env)⟩

lemma HealthChecks.advances_probeLast {liveness readiness : Option Probe} (s : PodSpec) :
    Advances (PodSpec.progress d) s (probeLast liveness readiness s) := by
  obtain ⟨containers, heq, _, hkeeps⟩ := @probeLast_cases liveness readiness s
  rw [heq]
  refine PodSpec.advances_withContainers (hkeeps .refl fun c => ?_)
  have hextends : c.Extends (probed liveness readiness c) :=
    extends_addProbes (returns_addProbes.mpr rfl)
  exact hextends.advances (.refl _) (.refl _) (.refl _) (.refl (fun _ => List.prefix_rfl) _)
    (.refl (fun _ => List.prefix_rfl) _) (.refl (fun _ => List.prefix_rfl) _)

end Enricher

/-! ### Blueprints -/

namespace Blueprint

variable {d : String} {b : Blueprint}

lemma isBlank_pullPolicy? {policy : String} (h : b.pullPolicy? = some policy) :
    Text.isBlank policy = false := by
  unfold pullPolicy? at h
  split at h
  next given _ hgiven =>
    cases h
    obtain ⟨_, _, hnonblank⟩ := Option.bind_eq_some_iff.mp hgiven
    exact Text.isBlank_of_nonBlank? hnonblank
  next =>
    split at h <;> cases h
    decide
  next => cases h

lemma sound_container {image : Config.Image} {container : Container}
    (h : (b.container image).Returns container) : container.Sound d := by
  simp only [Blueprint.container, Logged.returns_bind, Logged.returns_pure] at h
  obtain ⟨ports, _, env, _, rfl⟩ := h
  exact ⟨.inl (image.isBlank_containerName b.project),
    fun _ hs => Config.Image.isBlank_reference? hs, fun _ hs => isBlank_pullPolicy? hs⟩

lemma sound_attach {volumes : List String} {container new : Container}
    (h : (attach volumes container).Returns new) (hc : container.Sound d) : new.Sound d := by
  obtain ⟨_, rfl⟩ := exists_mounts_of_attach h
  exact ⟨hc.name, hc.image, hc.imagePullPolicy⟩

/-- The containers of a blueprint have names, and no blank images or pull policies. -/
lemma sound_of_podTemplate {images : List Config.Image}
    {t : PodTemplateSpec} (h : (b.podTemplate images).Returns t) :
    ∀ container ∈ (t.spec.getD default).containers, container.Sound d := by
  simp only [Blueprint.podTemplate, Logged.returns_bind, Logged.returns_pure] at h
  obtain ⟨volumes, _, containers, hcontainers, attached, hattached, rfl⟩ := h
  refine Logged.forall_of_returns_mapM sound_attach hattached ?_
  exact Logged.forall_of_returns_mapM (P := fun _ => True) (fun h _ => sound_container h)
    hcontainers fun _ _ => trivial

end Blueprint
end Manifests
