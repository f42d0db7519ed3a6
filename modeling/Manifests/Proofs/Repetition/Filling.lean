import Manifests.Proofs.Extension.Pods
import Manifests.Proofs.Overlay.KeyedLists

/-! Filling the gaps of a pod specification that has none left.  A specification without gaps fills
itself, and whatever fills gaps only leaves it without them. -/
namespace Manifests

/-! ### Texts and lists -/

section Texts
variable {old new fallback : Option String}

/-- A text that is not blank may have replaced another one. -/
def TextFilled (old new : Option String) : Prop :=
  new = old ∨ (new.bind Text.nonBlank?).isSome = true

lemma fillText_self (fallback : Option String) : fillText fallback fallback = fallback := by
  unfold fillText
  split <;> rfl

lemma fillText_fillText_self (value fallback : Option String) :
    fillText (fillText value fallback) fallback = fillText value fallback := by
  by_cases h : (value.bind Text.nonBlank?).isSome = true
  · have hvalue : fillText value fallback = value := if_pos h
    rw [hvalue, hvalue]
  · have hfallback : fillText value fallback = fallback := if_neg h
    rw [hfallback, fillText_self]

lemma TextFilled.fillText_eq (h : TextFilled old new) (hold : fillText old fallback = old) :
    fillText new fallback = new := by
  obtain rfl | hnew := h
  · exact hold
  · exact if_pos hnew

end Texts

namespace KeyedList

variable {α κ : Type} [BEq κ] [LawfulBEq κ] {key : α → κ} {base new more : List α}

lemma addMissing_eq_self_iff :
    addMissing key base more = base ↔ ∀ a ∈ more, key a ∈ base.map key := by
  simp [addMissing, List.filter_eq_nil_iff]

lemma addMissing_self (l : List α) : addMissing key l l = l :=
  addMissing_eq_self_iff.mpr fun _ => List.mem_map_of_mem

/-- All keys are there afterwards. -/
lemma keys_subset_addMissing (base more : List α) :
    more.map key ⊆ (addMissing key base more).map key := by
  intro k hk
  obtain ⟨a, ha, rfl⟩ := List.mem_map.mp hk
  rw [addMissing, List.map_append, List.mem_append]
  by_cases hbase : key a ∈ base.map key
  · exact .inl hbase
  · refine .inr (List.mem_map_of_mem (List.mem_filter.mpr ⟨ha, ?_⟩))
    simpa using hbase

lemma addMissing_addMissing_self (base more : List α) :
    addMissing key (addMissing key base more) more = addMissing key base more := by
  rw [addMissing_eq_self_iff]
  intro a ha
  exact keys_subset_addMissing base more (List.mem_map_of_mem ha)

lemma addMissing_eq_of_prefix (h : base <+: new) (hbase : addMissing key base more = base) :
    addMissing key new more = new := by
  rw [addMissing_eq_self_iff] at hbase ⊢
  exact fun a ha => List.map_subset key h.subset (hbase a ha)

end KeyedList

section Ports
variable {base more : List ContainerPort}

lemma ContainerPort.clashes_self (p : ContainerPort) : p.clashes p = true := by
  simp [clashes]

lemma addPorts_eq_self (h : ∀ p ∈ more, base.any (·.clashes p) = true) :
    addPorts base more = base := by
  unfold addPorts
  induction more with
  | nil => rfl
  | cons p more ih =>
    obtain ⟨hp, hmore⟩ := List.forall_mem_cons.mp h
    rw [List.foldl_cons, if_pos hp]
    exact ih hmore

lemma any_clashes_addPorts (base more : List ContainerPort) :
    ∀ p ∈ more, (addPorts base more).any (·.clashes p) = true := by
  induction more generalizing base with
  | nil => simp
  | cons p more ih =>
    refine List.forall_mem_cons.mpr ⟨?_, fun q hq => ih _ q hq⟩
    -- The port clashes with itself, if with no other.
    have hbase :
        (if base.any (·.clashes p) then base else base ++ [p]).any (·.clashes p) = true := by
      split
      next h => exact h
      next => simp [p.clashes_self]
    rw [List.any_eq_true] at hbase ⊢
    obtain ⟨q, hq, hclash⟩ := hbase
    exact ⟨q, (prefix_addPorts _ more).subset hq, hclash⟩

lemma addPorts_addPorts_self (base more : List ContainerPort) :
    addPorts (addPorts base more) more = addPorts base more :=
  addPorts_eq_self (any_clashes_addPorts base more)

lemma addPorts_self (l : List ContainerPort) : addPorts l l = l :=
  addPorts_eq_self fun p hp => List.any_eq_true.mpr ⟨p, hp, p.clashes_self⟩

end Ports

/-! ### Containers -/

lemma Option.orElse_orElse_self {α : Type} (a b : Option α) : ((a <|> b) <|> b) = (a <|> b) := by
  cases a <;> cases b <;> rfl

lemma Option.orElse_self {α : Type} (a : Option α) : (a <|> a) = a := by
  cases a <;> rfl

lemma KeepsPart.merge?_eq {α : Type} {merge : List α → List α → List α}
    {old new more : Option (List α)} (h : KeepsPart (· <+: ·) old new)
    (hmerge : ∀ {l m n : List α}, l <+: m → merge l n = l → merge m n = m)
    (hold : KeyedList.merge? merge old more = old) : KeyedList.merge? merge new more = new := by
  cases more with
  | none => rfl
  | some more =>
    obtain ⟨l, hl⟩ : ∃ l, old = some l := ⟨_, hold.symm⟩
    obtain ⟨m, rfl, hlm⟩ := h l hl
    subst hl
    exact congrArg some (hmerge hlm (Option.some.inj hold))

lemma KeepsItems.exists_cons {α : Type} {R : α → α → Prop} {a : α} {l new : List α}
    (h : KeepsItems R (a :: l) new) : ∃ b m, new = b :: m ∧ R a b ∧ KeepsItems R l m := by
  cases new with
  | nil =>
    obtain ⟨b, hb, _⟩ := h 0 a rfl
    cases hb
  | cons b m =>
    obtain ⟨b', hb, hab⟩ := h 0 a rfl
    cases hb
    exact ⟨b, m, rfl, hab, fun i x hx => h (i + 1) x hx⟩

lemma Keeps.orElse_eq {α : Type} {old new fallback : Option α} (h : Keeps old new)
    (hold : (old <|> fallback) = old) : (new <|> fallback) = new := by
  cases old with
  | some a => rw [h a rfl]; rfl
  | none =>
    obtain rfl : fallback = none := hold
    cases new <;> rfl

namespace Container

lemma fill_eq_self_iff {c fallback : Container} : c.fill fallback = c ↔
    KeyedList.merge? (KeyedList.addMissing (·.name)) c.env fallback.env = c.env ∧
    fillText c.image fallback.image = c.image ∧
    fillText c.imagePullPolicy fallback.imagePullPolicy = c.imagePullPolicy ∧
    (c.livenessProbe <|> fallback.livenessProbe) = c.livenessProbe ∧
    (Text.isBlank c.name = true → fallback.name = c.name) ∧
    KeyedList.merge? addPorts c.ports fallback.ports = c.ports ∧
    (c.readinessProbe <|> fallback.readinessProbe) = c.readinessProbe ∧
    (c.securityContext <|> fallback.securityContext) = c.securityContext ∧
    KeyedList.merge? (KeyedList.addMissing (·.mountPath)) c.volumeMounts fallback.volumeMounts =
      c.volumeMounts := by
  obtain ⟨⟩ := c
  simp only [fill, Container.mk.injEq, ite_eq_right_iff, true_and, and_true]

lemma fill_fill_self (c fallback : Container) :
    (c.fill fallback).fill fallback = c.fill fallback := by
  rw [fill_eq_self_iff]
  refine ⟨KeyedList.merge?_merge?_self (fun b => KeyedList.addMissing_addMissing_self b _) _,
    fillText_fillText_self _ _, fillText_fillText_self _ _, Option.orElse_orElse_self _ _,
    fun h => ?_, KeyedList.merge?_merge?_self (fun b => addPorts_addPorts_self b _) _,
    Option.orElse_orElse_self _ _, Option.orElse_orElse_self _ _,
    KeyedList.merge?_merge?_self (fun b => KeyedList.addMissing_addMissing_self b _) _⟩
  have hfilled : (c.fill fallback).name =
      if Text.isBlank c.name then fallback.name else c.name := rfl
  rw [hfilled] at h ⊢
  split
  next => rfl
  next hname =>
    rw [if_neg hname] at h
    exact absurd h hname

lemma fill_self (c : Container) : c.fill c = c :=
  fill_eq_self_iff.mpr ⟨(KeyedList.merge?_self_iff rfl).mpr (KeyedList.addMissing_self _),
    fillText_self _, fillText_self _, Option.orElse_self _, fun _ => rfl,
    (KeyedList.merge?_self_iff rfl).mpr (addPorts_self _), Option.orElse_self _,
    Option.orElse_self _, (KeyedList.merge?_self_iff rfl).mpr (KeyedList.addMissing_self _)⟩

/-- What enrichers behind the filling change: gaps in texts, environments and probes. -/
structure Filled (c d : Container) : Prop where
  name : d.name = c.name ∨ Text.isBlank d.name = false
  image : TextFilled c.image d.image
  imagePullPolicy : TextFilled c.imagePullPolicy d.imagePullPolicy
  readinessProbe : Keeps c.readinessProbe d.readinessProbe
  livenessProbe : Keeps c.livenessProbe d.livenessProbe
  env : KeepsPart (· <+: ·) c.env d.env
  ports : d.ports = c.ports
  volumeMounts : d.volumeMounts = c.volumeMounts
  securityContext : d.securityContext = c.securityContext

lemma Filled.refl (c : Container) : c.Filled c where
  name := .inl rfl
  image := .inl rfl
  imagePullPolicy := .inl rfl
  readinessProbe := .refl _
  livenessProbe := .refl _
  env := .refl (fun _ => List.prefix_rfl) _
  ports := rfl
  volumeMounts := rfl
  securityContext := rfl

/-- A container without gaps keeps having none. -/
lemma Filled.fill_eq_self {c d fallback : Container} (h : c.Filled d)
    (hc : c.fill fallback = c) : d.fill fallback = d := by
  rw [fill_eq_self_iff] at hc ⊢
  obtain ⟨henv, himage, hpolicy, hliveness, hname, hports, hreadiness, hsecurity, hmounts⟩ := hc
  refine ⟨h.env.merge?_eq KeyedList.addMissing_eq_of_prefix henv, h.image.fillText_eq himage,
    h.imagePullPolicy.fillText_eq hpolicy, h.livenessProbe.orElse_eq hliveness, fun hblank => ?_,
    ?_, h.readinessProbe.orElse_eq hreadiness, ?_, ?_⟩
  · obtain hsame | hnot := h.name
    · rw [hsame] at hblank ⊢
      exact hname hblank
    · rw [hnot] at hblank
      cases hblank
  · rw [h.ports, hports]
  · rw [h.securityContext, hsecurity]
  · rw [h.volumeMounts, hmounts]

end Container

/-- Containers that fill by their place have no gaps if each has none and none is missing. -/
lemma fillContainers_cons_eq_self_iff {c fallback : Container} {containers rest : List Container} :
    fillContainers (c :: containers) (fallback :: rest) = c :: containers ↔
      c.fill fallback = c ∧ fillContainers containers rest = containers := by
  rw [fillContainers, List.cons.injEq]

lemma fillContainers_fillContainers_self (containers fallback : List Container) :
    fillContainers (fillContainers containers fallback) fallback =
      fillContainers containers fallback := by
  fun_induction fillContainers containers fallback with
  | case1 containers => rfl
  | case2 fallback rest ih =>
    rw [fillContainers_cons_eq_self_iff]
    exact ⟨Container.fill_fill_self _ _, ih⟩
  | case3 c containers fallback rest ih =>
    rw [fillContainers_cons_eq_self_iff]
    exact ⟨Container.fill_fill_self _ _, ih⟩

lemma fillContainers_self (containers : List Container) :
    fillContainers containers containers = containers := by
  induction containers with
  | nil => rfl
  | cons c containers ih =>
    rw [fillContainers_cons_eq_self_iff]
    exact ⟨c.fill_self, ih⟩

lemma fillContainers_eq_of_filled {containers new fallback : List Container}
    (h : KeepsItems Container.Filled containers new)
    (hcontainers : fillContainers containers fallback = containers) :
    fillContainers new fallback = new := by
  induction fallback generalizing containers new with
  | nil => cases new <;> rfl
  | cons f fallback ih =>
    cases containers with
    | nil => cases hcontainers
    | cons c containers =>
      obtain ⟨hc, hrest⟩ := fillContainers_cons_eq_self_iff.mp hcontainers
      obtain ⟨d, rest, rfl, hcd, hnew⟩ := h.exists_cons
      rw [fillContainers_cons_eq_self_iff]
      exact ⟨hcd.fill_eq_self hc, ih hnew hrest⟩

/-! ### Pod specifications -/

namespace PodSpec

/-- The containers of a specification whose gaps are filled. -/
def fillAll (fallback : List Container) (name : String) (containers : List Container) :
    List Container :=
  if fallback.isEmpty then nameFirst name containers
  else if containers.isEmpty then fallback
  else fillContainers containers fallback

lemma fill_eq_self_iff {s fallback : PodSpec} {name : String} : s.fill fallback name = s ↔
    fillAll fallback.containers name s.containers = s.containers ∧
    (s.serviceAccountName <|> fallback.serviceAccountName) = s.serviceAccountName ∧
    KeyedList.merge? (KeyedList.addMissing (·.name)) s.volumes fallback.volumes = s.volumes := by
  obtain ⟨⟩ := s
  simp only [fill, fillAll, PodSpec.mk.injEq, true_and]

lemma fillAll_fillAll_self (fallback : List Container) (name : String)
    (containers : List Container) :
    fillAll fallback name (fillAll fallback name containers) =
      fillAll fallback name containers := by
  unfold fillAll
  split
  next hfallback =>
    cases containers with
    | nil => rfl
    | cons c rest =>
      unfold nameFirst
      by_cases hname : Text.isBlank c.name <;> simp [hname]
  next hfallback =>
    split
    next =>
      exact fillContainers_self fallback
    next hcontainers =>
      cases containers with
      | nil => exact absurd rfl hcontainers
      | cons c containers =>
        cases fallback with
        | nil => exact absurd rfl hfallback
        | cons f fallback =>
          exact fillContainers_fillContainers_self (c :: containers) (f :: fallback)

lemma fillAll_eq_of_filled {fallback containers new : List Container} {name : String}
    (hne : containers ≠ []) (h : KeepsItems Container.Filled containers new)
    (hcontainers : fillAll fallback name containers = containers) :
    fillAll fallback name new = new := by
  obtain ⟨c, rest, rfl⟩ := List.exists_cons_of_ne_nil hne
  obtain ⟨d, new, rfl, hcd, hnew⟩ := h.exists_cons
  unfold fillAll at hcontainers ⊢
  split
  next hfallback =>
    rw [if_pos hfallback] at hcontainers
    have hname : Text.isBlank c.name = true → name = c.name := by
      intro hc
      rw [nameFirst, if_pos hc, List.cons.injEq] at hcontainers
      exact congrArg Container.name hcontainers.1
    have hd : Text.isBlank d.name = true → { d with name } = d := by
      intro hd
      obtain hsame | hnot := hcd.name
      · rw [hname (hsame ▸ hd), ← hsame]
      · rw [hnot] at hd
        cases hd
    rw [nameFirst]
    split
    next hblank => rw [hd hblank]
    next => rfl
  next hfallback =>
    rw [if_neg hfallback] at hcontainers
    exact fillContainers_eq_of_filled h hcontainers

lemma fill_fill_self (s fallback : PodSpec) (name : String) :
    (s.fill fallback name).fill fallback name = s.fill fallback name := by
  rw [fill_eq_self_iff]
  exact ⟨fillAll_fillAll_self _ _ _, Option.orElse_orElse_self _ _,
    KeyedList.merge?_merge?_self (fun b => KeyedList.addMissing_addMissing_self b _) _⟩

lemma fill_self (s : PodSpec) (name : String) : s.fill s name = s := by
  rw [fill_eq_self_iff]
  refine ⟨?_, Option.orElse_self _,
    (KeyedList.merge?_self_iff rfl).mpr (KeyedList.addMissing_self _)⟩
  unfold fillAll
  split
  next h =>
    rw [List.isEmpty_iff.mp h]
    rfl
  next => exact fillContainers_self _

/-- A specification without gaps keeps having none. -/
lemma fill_eq_of_filled {s fallback : PodSpec} {name : String} {containers : List Container}
    (hne : s.containers ≠ []) (h : KeepsItems Container.Filled s.containers containers)
    (hs : s.fill fallback name = s) :
    (s.withContainers containers).fill fallback name = s.withContainers containers := by
  rw [fill_eq_self_iff] at hs ⊢
  exact ⟨fillAll_eq_of_filled hne h hs.1, hs.2⟩

end PodSpec
end Manifests
