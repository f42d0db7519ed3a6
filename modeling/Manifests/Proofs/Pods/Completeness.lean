import Manifests.Proofs.Repetition.Filling

/-! Filling is complete.  A filled pod specification has what the default one asks for, the share of
each default container at its own place, and filling it again finds nothing to do.  Startup probes
are not among what is filled. -/
namespace Manifests

lemma KeyedList.keys_subset_merge? {α κ : Type} [BEq κ] [LawfulBEq κ] {key : α → κ}
    (base more : Option (List α)) :
    (more.getD []).map key ⊆ ((merge? (addMissing key) base more).getD []).map key := by
  cases more with
  | none => exact List.nil_subset _
  | some more => exact keys_subset_addMissing (base.getD []) more

lemma Option.isSome_orElse_of_right {α : Type} (a : Option α) {b : Option α}
    (h : b.isSome = true) : (a <|> b).isSome = true := by
  cases a with
  | none => exact h
  | some _ => rfl

/-! ### Ports -/

/-- A port that serves for another one: it has the number of that port, or the name it was given. -/
def ContainerPort.ServesFor (p q : ContainerPort) : Prop :=
  p.containerPort = q.containerPort ∨ ∃ name, p.name = some name ∧ q.name = some name

lemma ContainerPort.clashes_iff {p q : ContainerPort} : p.clashes q = true ↔ p.ServesFor q := by
  unfold clashes ServesFor
  cases p.name with
  | none => simp
  | some name =>
    have hname : (some name == q.name) = true ↔ ∃ n, some name = some n ∧ q.name = some n := by
      rw [beq_iff_eq]
      exact ⟨fun h => ⟨name, rfl, h.symm⟩, fun ⟨n, hn, hq⟩ => hn.trans hq.symm⟩
    rw [Bool.or_eq_true, beq_iff_eq, Option.isSome_some, Bool.true_and, hname]

lemma exists_servesFor_merge? (base more : Option (List ContainerPort)) :
    ∀ q ∈ more.getD [], ∃ p ∈ (KeyedList.merge? addPorts base more).getD [], p.ServesFor q := by
  cases more with
  | none => nofun
  | some more =>
    intro q hq
    obtain ⟨p, hp, hclash⟩ := List.any_eq_true.mp (any_clashes_addPorts (base.getD []) more q hq)
    exact ⟨p, hp, ContainerPort.clashes_iff.mp hclash⟩

/-! ### Containers -/

namespace Container

/-- The container has what another one asks for: its variables, mount paths, ports, its readiness
and liveness probes and its security context, with values of its own where it had them. -/
structure Covers (c d : Container) : Prop where
  env : (d.env.getD []).map (·.name) ⊆ (c.env.getD []).map (·.name)
  volumeMounts : (d.volumeMounts.getD []).map (·.mountPath) ⊆
    (c.volumeMounts.getD []).map (·.mountPath)
  ports : ∀ q ∈ d.ports.getD [], ∃ p ∈ c.ports.getD [], p.ServesFor q
  readinessProbe : d.readinessProbe.isSome = true → c.readinessProbe.isSome = true
  livenessProbe : d.livenessProbe.isSome = true → c.livenessProbe.isSome = true
  securityContext : d.securityContext.isSome = true → c.securityContext.isSome = true

/-- There is a probe of some kind. -/
def isProbed (c : Container) : Bool :=
  c.readinessProbe.isSome || c.livenessProbe.isSome || c.startupProbe.isSome

lemma covers_fill (c fallback : Container) : (c.fill fallback).Covers fallback where
  env := KeyedList.keys_subset_merge? _ _
  volumeMounts := KeyedList.keys_subset_merge? _ _
  ports := exists_servesFor_merge? _ _
  readinessProbe := Option.isSome_orElse_of_right _
  livenessProbe := Option.isSome_orElse_of_right _
  securityContext := Option.isSome_orElse_of_right _

/-- A container has no gap that it could fill itself. -/
lemma Covers.refl (c : Container) : c.Covers c := by
  have h := c.covers_fill c
  rwa [fill_self] at h

end Container

lemma covers_fillContainers (containers fallback : List Container) :
    KeepsItems (fun d c => c.Covers d) fallback (fillContainers containers fallback) := by
  fun_induction fillContainers containers fallback with
  | case1 containers => exact .nil
  | case2 fallback rest ih => exact .cons (Container.covers_fill default fallback) ih
  | case3 c containers fallback rest ih => exact .cons (c.covers_fill fallback) ih

lemma KeepsItems.length_le {α : Type} {R : α → α → Prop} {old new : List α}
    (h : KeepsItems R old new) : old.length ≤ new.length := by
  by_contra hlt
  rw [Nat.not_le] at hlt
  obtain ⟨b, hb, _⟩ := h new.length old[new.length] (List.getElem?_eq_getElem hlt)
  rw [List.getElem?_eq_none (Nat.le_refl _)] at hb
  cases hb

/-- Containers keep the startup probes they have, and those that are made get none. -/
lemma map_startupProbe_fillContainers (containers fallback : List Container) :
    (fillContainers containers fallback).map (·.startupProbe) =
      containers.map (·.startupProbe) ++
        List.replicate (fallback.length - containers.length) none := by
  fun_induction fillContainers containers fallback with
  | case1 containers => simp
  | case2 fallback rest ih =>
    rw [List.map_cons, ih]
    rfl
  | case3 c containers fallback rest ih =>
    rw [List.map_cons, ih, List.length_cons, List.length_cons, Nat.add_sub_add_right]
    rfl

/-! ### Pod specifications -/

namespace PodSpec

lemma covers_fillAll (fallback : List Container) (name : String) (containers : List Container) :
    KeepsItems (fun d c => c.Covers d) fallback (fillAll fallback name containers) := by
  unfold fillAll
  split
  next h =>
    rw [List.isEmpty_iff.mp h]
    exact .nil
  next =>
    split
    next => exact fun _ d hd => ⟨d, hd, .refl d⟩
    next => exact covers_fillContainers containers fallback

lemma map_startupProbe_nameFirst (name : String) (containers : List Container) :
    (nameFirst name containers).map (·.startupProbe) = containers.map (·.startupProbe) := by
  cases containers with
  | nil => rfl
  | cons c rest =>
    rw [nameFirst]
    split <;> rfl

lemma map_startupProbe_fillAll (fallback : List Container) (name : String)
    (containers : List Container) : (fillAll fallback name containers).map (·.startupProbe) =
      if containers = [] then fallback.map (·.startupProbe)
      else containers.map (·.startupProbe) ++
        List.replicate (fallback.length - containers.length) none := by
  unfold fillAll
  split
  next h =>
    rw [map_startupProbe_nameFirst, List.isEmpty_iff.mp h]
    split
    next hnil => rw [hnil]
    next => simp
  next =>
    split
    next hnil => rw [if_pos (List.isEmpty_iff.mp hnil)]
    next hne =>
      rw [if_neg (mt List.isEmpty_iff.mpr hne), map_startupProbe_fillContainers]

/-- The specification has what another one asks for: as many containers, each with the share of the
one at its place, the volumes by name, and a service account. -/
structure Covers (s d : PodSpec) : Prop where
  length : d.containers.length ≤ s.containers.length
  containers : KeepsItems (fun d c => c.Covers d) d.containers s.containers
  volumes : (d.volumes.getD []).map (·.name) ⊆ (s.volumes.getD []).map (·.name)
  serviceAccountName : d.serviceAccountName.isSome = true → s.serviceAccountName.isSome = true

/-- Whatever a specification is filled from, afterwards it has all that this one asks for, and
filling it from there once more changes nothing.  Only a specification without any containers takes
startup probes over. -/
theorem fill_complete (s fallback : PodSpec) (name : String) :
    (s.fill fallback name).Covers fallback ∧
      (s.fill fallback name).containers.map (·.startupProbe) =
        (if s.containers = [] then fallback.containers.map (·.startupProbe)
        else s.containers.map (·.startupProbe) ++
          List.replicate (fallback.containers.length - s.containers.length) none) ∧
      (s.fill fallback name).fill fallback name = s.fill fallback name := by
  have hcontainers := covers_fillAll fallback.containers name s.containers
  have hcovers : (s.fill fallback name).Covers fallback :=
    { length := hcontainers.length_le
      containers := hcontainers
      volumes := KeyedList.keys_subset_merge? _ _
      serviceAccountName := Option.isSome_orElse_of_right _ }
  have hstartup := map_startupProbe_fillAll fallback.containers name s.containers
  exact ⟨hcovers, hstartup, fill_fill_self s fallback name⟩

/-- A specification with one container, which has a startup probe or none. -/
def ofStartup (startupProbe : Option Probe) : PodSpec :=
  { (default : PodSpec) with
    containers := [{ (default : Container) with name := "web", startupProbe }] }

/-- The probe of the default container is lost, and no other one takes its place. -/
theorem isProbed_fill_ofStartup :
    (ofStartup (some default)).containers.map (·.isProbed) = [true] ∧
      ((ofStartup none).fill (ofStartup (some default)) "web").containers.map (·.isProbed) =
        [false] := by
  decide

end PodSpec
end Manifests
