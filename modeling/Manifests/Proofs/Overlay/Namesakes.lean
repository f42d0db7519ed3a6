import Mathlib.Data.List.Nodup
import Manifests.Proofs.Overlay.Containers

/-! Containers under overrides that have names of their own.  Each goes under its namesake, what has
none is added behind, and everything stays in its order. -/
namespace Manifests

section Named
variable {base ns : List Container}

/-- The overrides behind the first container find the others as they would find them without it. -/
lemma find?_filter_name {c d : Container} (h : d.name ≠ c.name) :
    (ns.filter (·.name != c.name)).find? (·.name == d.name) = ns.find? (·.name == d.name) := by
  rw [List.find?_filter]
  congr 1
  funext n
  by_cases hn : n.name = d.name
  · simp [hn, h]
  · simp [hn]

lemma layAllNamed_eq (hbase : (base.map (·.name)).Nodup) (hns : ns.Pairwise (·.name ≠ ·.name)) :
    layAllNamed ns base =
      (base.map fun c => c.overlay? (ns.find? (·.name == c.name))) ++
        ns.filter (·.name ∉ base.map (·.name)) := by
  induction base generalizing ns with
  | nil =>
    rw [layAllNamed_of_forall_ne hns (by simp)]
    simp
  | cons c rest ih =>
    obtain ⟨hc, hrest⟩ := List.nodup_cons.mp (List.map_cons ▸ hbase)
    have hfound : ∀ d ∈ rest, d.overlay? ((ns.filter (·.name != c.name)).find? (·.name == d.name)) =
        d.overlay? (ns.find? (·.name == d.name)) := by
      intro d hd
      rw [find?_filter_name]
      rintro hdc
      exact hc (hdc ▸ List.mem_map_of_mem hd)
    have hleft : (ns.filter (·.name != c.name)).filter (·.name ∉ rest.map (·.name)) =
        ns.filter (·.name ∉ (c :: rest).map (·.name)) := by
      rw [List.filter_filter]
      refine List.filter_congr fun n _ => ?_
      rw [Bool.eq_iff_iff]
      simp [and_comm]
    rw [layAllNamed_cons hns, ih hrest (hns.filter _), List.map_congr_left hfound, hleft]
    rfl

end Named

/-- Containers under overrides that have names of their own. -/
theorem PodSpec.containers_overlay_named {base patch : PodSpec}
    (hbase : (base.containers.map (·.name)).Nodup) (hnamed : ∀ p ∈ patch.containers, p.name ≠ "")
    (hpatch : (patch.containers.map (·.name)).Nodup) :
    (base.overlay patch).containers =
        (base.containers.map fun c => c.overlay? (patch.containers.find? (·.name == c.name))) ++
          patch.containers.filter (·.name ∉ base.containers.map (·.name)) ∧
      base.containers.map (·.name) <+: (base.overlay patch).containers.map (·.name) := by
  have hcontainers :
      (base.overlay patch).containers = layAllNamed patch.containers base.containers :=
    overlayContainers_named hnamed 0 base.containers
  rw [hcontainers, layAllNamed_eq hbase (List.pairwise_map.mp hpatch)]
  refine ⟨rfl, ?_⟩
  rw [List.map_append, List.map_map]
  have hnames : base.containers.map ((·.name) ∘ fun c =>
      c.overlay? (patch.containers.find? (·.name == c.name))) = base.containers.map (·.name) :=
    List.map_congr_left fun c _ => c.name_overlay? _
  rw [hnames]
  exact List.prefix_append _ _

def imaged (name image : String) : Container :=
  { (default : Container) with name, image := some image }

def podRunning (containers : List Container) : PodSpec :=
  { (default : PodSpec) with containers }

theorem PodSpec.containers_overlay_named_sidecar :
    ((podRunning [imaged "web" "web:1", imaged "log" "log:1"]).containers.map (·.name)).Nodup ∧
      (∀ p ∈ (podRunning [imaged "proxy" "proxy:1", imaged "log" "log:2"]).containers,
        p.name ≠ "") ∧
      ((podRunning [imaged "proxy" "proxy:1", imaged "log" "log:2"]).containers.map
        (·.name)).Nodup ∧
      ((podRunning [imaged "web" "web:1", imaged "log" "log:1"]).overlay
        (podRunning [imaged "proxy" "proxy:1", imaged "log" "log:2"])).containers =
        [imaged "web" "web:1", imaged "log" "log:2", imaged "proxy" "proxy:1"] := by
  have hbase : ((podRunning [imaged "web" "web:1", imaged "log" "log:1"]).containers.map
      (·.name)).Nodup := by
    decide
  have hnamed : ∀ p ∈ (podRunning [imaged "proxy" "proxy:1", imaged "log" "log:2"]).containers,
      p.name ≠ "" := by
    decide
  have hpatch : ((podRunning [imaged "proxy" "proxy:1", imaged "log" "log:2"]).containers.map
      (·.name)).Nodup := by
    decide
  refine ⟨hbase, hnamed, hpatch, ?_⟩
  obtain ⟨hcontainers, _⟩ := containers_overlay_named hbase hnamed hpatch
  rw [hcontainers]
  decide

end Manifests
