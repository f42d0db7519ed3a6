import Manifests.Proofs.Pods.InitContainers
import Manifests.Proofs.Repetition.Finishing

/-! The init container that opens the claimed volumes of a pod.  It mounts each of them where the
first container that mounts it does, and no pod gets it that claims a volume which no container
mounts.  Containers may mount different volumes at one path, and then the paths of the init
container are not distinct; its command still names each of them once. -/
namespace Manifests

lemma nodup_eraseDups {α : Type} [BEq α] [LawfulBEq α] (xs : List α) : xs.eraseDups.Nodup := by
  match xs with
  | [] => exact .nil
  | x :: rest =>
    rw [List.eraseDups_cons, List.nodup_cons, List.mem_eraseDups]
    exact ⟨by simp, nodup_eraseDups _⟩
termination_by xs.length
decreasing_by exact Nat.lt_succ_of_le (List.length_filter_le _ _)

def Container.mounts (x : Container) : List VolumeMount := x.volumeMounts.getD []

/-- The container at a place is the first one that mounts the volume, and does so by the mount
first. -/
structure FirstMount (containers : List Container) (place : Nat) (volume : String)
    (m : VolumeMount) : Prop where
  mount : ∃ x, containers[place]? = some x ∧ x.mounts.find? (·.name == volume) = some m
  before : ∀ x ∈ containers.take place, ∀ n ∈ x.mounts, n.name ≠ volume

namespace FirstMount

variable {containers : List Container} {i j : Nat} {volume : String} {m n : VolumeMount}

lemma exists_container (h : FirstMount containers i volume m) :
    ∃ x ∈ containers, m ∈ x.mounts ∧ m.name = volume := by
  obtain ⟨x, hx, hm⟩ := h.mount
  exact ⟨x, List.mem_of_getElem? hx, List.mem_of_find?_eq_some hm,
    by simpa using List.find?_some hm⟩

lemma not_lt (hm : FirstMount containers i volume m) (hn : FirstMount containers j volume n) :
    ¬i < j := by
  intro hlt
  obtain ⟨x, hx, hfind⟩ := hm.mount
  have hmem : x ∈ containers.take j := by
    refine List.mem_of_getElem? (i := i) ?_
    rwa [List.getElem?_take_of_lt hlt]
  refine hn.before x hmem m (List.mem_of_find?_eq_some hfind) ?_
  simpa using List.find?_some hfind

/-- A volume is first mounted once. -/
lemma unique (hm : FirstMount containers i volume m) (hn : FirstMount containers j volume n) :
    i = j ∧ m = n := by
  obtain rfl : i = j := Nat.le_antisymm (Nat.le_of_not_lt (hn.not_lt hm))
    (Nat.le_of_not_lt (hm.not_lt hn))
  obtain ⟨x, hx, hm⟩ := hm.mount
  obtain ⟨y, hy, hn⟩ := hn.mount
  cases hx.symm.trans hy
  exact ⟨rfl, Option.some.inj (hm.symm.trans hn)⟩

end FirstMount

namespace Enricher.VolumePermissions

variable {c : Context} {s : PodSpec} {t : PodTemplateSpec} {r u : Resource}

/-- The mount found for a volume is the first one of it. -/
lemma find?_mounts_eq_some_iff {volume : String} {m : VolumeMount} :
    (mounts s).find? (·.name == volume) = some m ↔
      ∃ i, FirstMount s.containers i volume m := by
  have hmounts : (mounts s).find? (·.name == volume) =
      s.containers.findSome? fun x => x.mounts.find? (·.name == volume) := List.find?_flatMap
  rw [hmounts, List.findSome?_eq_some_iff]
  constructor
  · rintro ⟨front, x, back, hs, hm, hfront⟩
    refine ⟨front.length, ⟨x, by simp [hs], hm⟩, ?_⟩
    rw [hs, List.take_left']
    · simpa using hfront
    · rfl
  · rintro ⟨i, ⟨x, hx, hm⟩, hbefore⟩
    obtain ⟨hi, rfl⟩ := List.getElem?_eq_some_iff.mp hx
    refine ⟨s.containers.take i, s.containers[i], s.containers.drop (i + 1), ?_, hm, ?_⟩
    · rw [← List.drop_eq_getElem_cons hi, List.take_append_drop]
    · simpa using hbefore

/-- Some container mounts the volume. -/
def IsMounted (s : PodSpec) (volume : String) : Prop :=
  ∃ x ∈ s.containers, ∃ m ∈ x.mounts, m.name = volume

lemma isMounted_iff {volume : String} :
    IsMounted s volume ↔ ∃ i m, FirstMount s.containers i volume m := by
  constructor
  · rintro ⟨x, hx, m, hm, hname⟩
    have hfound : ((mounts s).find? (·.name == volume)).isSome = true :=
      List.find?_isSome.mpr ⟨m, List.mem_flatMap.mpr ⟨x, hx, hm⟩, beq_iff_eq.mpr hname⟩
    obtain ⟨n, hn⟩ := Option.isSome_iff_exists.mp hfound
    obtain ⟨i, hi⟩ := find?_mounts_eq_some_iff.mp hn
    exact ⟨i, n, hi⟩
  · rintro ⟨i, m, h⟩
    obtain ⟨x, hx, hm, hname⟩ := h.exists_container
    exact ⟨x, hx, m, hm, hname⟩

/-! ### The container -/

/-- The path of the first mount of a volume. -/
def firstPath (s : PodSpec) (v : Volume) : String :=
  (((mounts s).find? (·.name == v.name)).map (·.mountPath)).getD ""

def openingMount (s : PodSpec) (v : Volume) : VolumeMount :=
  { (default : VolumeMount) with name := v.name, mountPath := firstPath s v }

/-- The container that opens the claimed volumes where they are first mounted. -/
def opener (c : Context) (s : PodSpec) : Container :=
  { (default : Container) with
    name := name
    image := some "busybox"
    imagePullPolicy := some "IfNotPresent"
    command := some ("chmod" :: c.textOr name permissionKey "777" ::
      ((claims s).map (firstPath s)).eraseDups)
    volumeMounts := some ((claims s).map (openingMount s)) }

lemma firstPath_of_firstMount {v : Volume} {i : Nat} {m : VolumeMount}
    (h : FirstMount s.containers i v.name m) : firstPath s v = m.mountPath := by
  rw [firstPath, find?_mounts_eq_some_iff.mpr ⟨i, h⟩, Option.map_some, Option.getD_some]

lemma mountOf_of_isMounted {v : Volume} (h : IsMounted s v.name) :
    mountOf s v = .ok (openingMount s v) := by
  obtain ⟨i, m, hm⟩ := isMounted_iff.mp h
  rw [mountOf, find?_mounts_eq_some_iff.mpr ⟨i, hm⟩, openingMount, firstPath_of_firstMount hm]

lemma mountOf_of_not_isMounted {v : Volume} (h : ¬IsMounted s v.name) :
    mountOf s v = .error (.resource (.noMount v.name)) := by
  have hnone : (mounts s).find? (·.name == v.name) = none := by
    refine Option.eq_none_iff_forall_ne_some.mpr fun m hm => h ?_
    obtain ⟨i, hi⟩ := find?_mounts_eq_some_iff.mp hm
    exact isMounted_iff.mpr ⟨i, m, hi⟩
  rw [mountOf, hnone]

lemma initContainer_of_isMounted (h : ∀ v ∈ claims s, IsMounted s v.name) :
    initContainer c s = .ok (opener c s) := by
  have hmounts : (claims s).mapM (mountOf s) = .ok ((claims s).map (openingMount s)) := by
    rw [Except.mapM_eq_ok_iff, List.forall₂_map_right_iff, List.forall₂_same]
    exact fun v hv => mountOf_of_isMounted (h v hv)
  rw [initContainer, hmounts]
  change Except.ok _ = _
  rw [opener, List.map_map]
  rfl

lemma exists_noMount_of_not_isMounted {v : Volume} (hv : v ∈ claims s)
    (h : ¬IsMounted s v.name) :
    ∃ volume, initContainer c s = .error (.resource (.noMount volume)) := by
  cases hmade : initContainer c s with
  | error error =>
    obtain ⟨volume, rfl⟩ := noMount_of_initContainer hmade
    exact ⟨volume, rfl⟩
  | ok x =>
    obtain ⟨mounts, hmounts, _⟩ := Except.bind_eq_ok.mp hmade
    obtain ⟨m, _, hm⟩ := Except.exists_mem_of_mapM hmounts hv
    rw [mountOf_of_not_isMounted h] at hm
    cases hm

/-- Two volumes that are first mounted at one path, by different containers. -/
def Collide (s : PodSpec) (volume other : String) : Prop :=
  ∃ i j m n, i ≠ j ∧ FirstMount s.containers i volume m ∧ FirstMount s.containers j other n ∧
    m.mountPath = n.mountPath

/-- Claimed volumes are told apart by their names, and the mounts of a container by their paths. -/
structure IsDistinct (s : PodSpec) : Prop where
  volumes : ((claims s).map (·.name)).Nodup
  paths : ∀ x ∈ s.containers, (x.mounts.map (·.mountPath)).Nodup

/-- Within a container paths are distinct, so volumes that share a path come from two of them. -/
lemma nodup_firstPath_iff (h : IsDistinct s) (hmounted : ∀ v ∈ claims s, IsMounted s v.name) :
    ((claims s).map (firstPath s)).Nodup ↔
      ∀ v ∈ claims s, ∀ w ∈ claims s, ¬Collide s v.name w.name := by
  constructor
  · rintro hnodup v hv w hw ⟨i, j, m, n, hne, hm, hn, hpath⟩
    rw [← firstPath_of_firstMount hm, ← firstPath_of_firstMount hn] at hpath
    cases List.inj_on_of_nodup_map hnodup hv hw hpath
    exact hne (hm.unique hn).1
  · intro hapart
    refine List.Nodup.map_on (fun v hv w hw hpath => ?_) (List.Nodup.of_map _ h.volumes)
    obtain ⟨i, m, hm⟩ := isMounted_iff.mp (hmounted v hv)
    obtain ⟨j, n, hn⟩ := isMounted_iff.mp (hmounted w hw)
    rw [firstPath_of_firstMount hm, firstPath_of_firstMount hn] at hpath
    have hplace : i = j := by
      by_contra hne
      exact hapart v hv w hw ⟨i, j, m, n, hne, hm, hn, hpath⟩
    obtain ⟨x, hx, hmx⟩ := hm.mount
    obtain ⟨y, hy, hny⟩ := hn.mount
    rw [hplace] at hx
    cases hx.symm.trans hy
    have hmount : m = n := List.inj_on_of_nodup_map (h.paths x (List.mem_of_getElem? hx))
      (List.mem_of_find?_eq_some hmx) (List.mem_of_find?_eq_some hny) hpath
    obtain ⟨_, _, _, hmname⟩ := hm.exists_container
    obtain ⟨_, _, _, hnname⟩ := hn.exists_container
    exact List.inj_on_of_nodup_map h.volumes hv hw (by rw [← hmname, ← hnname, hmount])

/-- What is asked of the init container that opens the claimed volumes of a pod. -/
structure Opens (c : Context) (s : PodSpec) (x : Container) : Prop where
  name : x.name = VolumePermissions.name
  volumes : x.mounts.map (·.name) = (claims s).map (·.name)
  mounted : ∀ m ∈ x.mounts, ∃ i n, FirstMount s.containers i m.name n ∧ n.mountPath = m.mountPath
  distinct : (x.mounts.map (·.mountPath)).Nodup ↔
    ∀ v ∈ claims s, ∀ w ∈ claims s, ¬Collide s v.name w.name
  command : ∃ paths, x.command = some ("chmod" :: c.textOr VolumePermissions.name permissionKey
    "777" :: paths) ∧ paths.Nodup ∧ ∀ path, path ∈ paths ↔ path ∈ x.mounts.map (·.mountPath)

lemma opens_opener (h : IsDistinct s) (hmounted : ∀ v ∈ claims s, IsMounted s v.name) :
    Opens c s (opener c s) := by
  have hmounts : (opener c s).mounts = (claims s).map (openingMount s) := rfl
  have hpaths : (opener c s).mounts.map (·.mountPath) = (claims s).map (firstPath s) := by
    rw [hmounts, List.map_map]
    rfl
  refine ⟨rfl, ?volumes, ?mounted, ?distinct, ?command⟩
  case volumes =>
    rw [hmounts, List.map_map]
    rfl
  case mounted =>
    rw [hmounts]
    intro m hm
    obtain ⟨v, hv, rfl⟩ := List.mem_map.mp hm
    obtain ⟨i, n, hn⟩ := isMounted_iff.mp (hmounted v hv)
    exact ⟨i, n, hn, (firstPath_of_firstMount hn).symm⟩
  case distinct =>
    rw [hpaths]
    exact nodup_firstPath_iff h hmounted
  case command =>
    refine ⟨_, rfl, nodup_eraseDups _, fun path => ?_⟩
    rw [hpaths, List.mem_eraseDups]

/-! ### Templates and collections -/

/-- The pod of a resource that claims volumes, has containers and no init container by the name of
the one that opens volumes. -/
structure Awaits (r : Resource) (s : PodSpec) : Prop where
  pod : r.podSpec? = some s
  claimed : claims s ≠ []
  containers : s.containers ≠ []
  unopened : ∀ x ∈ s.initContainers.getD [], x.name ≠ name

/-- The pod of the resource with a further init container. -/
def withInit (r : Resource) (x : Container) : Resource :=
  r.modifyPodSpec fun s => { s with initContainers := some (s.initContainers.getD [] ++ [x]) }

lemma isNeeded_iff : isNeeded s = true ↔ claims s ≠ [] ∧ s.containers ≠ [] := by
  simp [isNeeded]

/-- For a pod that awaits its init container, it is made and added. -/
lemma adaptTemplate_of_awaits (hs : t.spec = some s) (h : Awaits r s) :
    adaptTemplate c t = Logged.ofExcept (initContainer c s) >>= t.addInitContainer := by
  have hneeded : isNeeded s = true := isNeeded_iff.mpr ⟨h.claimed, h.containers⟩
  have habsent : t.hasInitContainer name = false := by
    rw [Bool.eq_false_iff, ne_eq, hasInitContainer_iff hs]
    rintro ⟨x, hx, hname⟩
    exact h.unopened x hx hname
  unfold adaptTemplate
  rw [hs]
  dsimp only
  rw [hneeded, habsent]
  rfl

lemma returns_adaptResource (h : Awaits r s) (hmounted : ∀ v ∈ claims s, IsMounted s v.name) :
    (r.adaptTemplate (adaptTemplate c)).Returns (withInit r (opener c s)) := by
  obtain ⟨t, ht, hs⟩ := Option.bind_eq_some_iff.mp h.pod
  have hinits : t.initContainers = s.initContainers.getD [] := by
    rw [PodTemplateSpec.initContainers, hs, Option.bind_some]
  have habsent : t.initContainer? (opener c s).name = none := by
    rw [PodTemplateSpec.initContainer?, hinits, List.find?_eq_none]
    exact fun x hx => mt beq_iff_eq.mp (h.unopened x hx)
  have hadapted : (adaptTemplate c t).Returns (t.pushInitContainer (opener c s)) := by
    rw [adaptTemplate_of_awaits hs h, initContainer_of_isMounted hmounted, Logged.returns_bind]
    refine ⟨opener c s, rfl, ?_⟩
    rw [PodTemplateSpec.addInitContainer, habsent]
    exact Logged.returns_pure.mpr rfl
  unfold Resource.adaptTemplate
  rw [ht]
  refine Logged.returns_bind.mpr ⟨_, hadapted, Logged.returns_pure.mpr ?_⟩
  refine congrArg (Resource.mk r.metadata) (Content.modifyTemplate_congr fun u hu => ?_)
  cases ht.symm.trans hu
  rw [PodTemplateSpec.pushInitContainer, hinits, hs]
  rfl

lemma fails_adaptResource (h : Awaits r s) {v : Volume} (hv : v ∈ claims s)
    (hnot : ¬IsMounted s v.name) :
    ∃ volume, (r.adaptTemplate (adaptTemplate c)).Fails (.resource (.noMount volume)) := by
  obtain ⟨t, ht, hs⟩ := Option.bind_eq_some_iff.mp h.pod
  obtain ⟨volume, hfails⟩ := exists_noMount_of_not_isMounted (c := c) hv hnot
  refine ⟨volume, ?_⟩
  unfold Resource.adaptTemplate
  rw [ht]
  refine Logged.fails_bind.mpr (.inl ?_)
  rw [adaptTemplate_of_awaits hs h]
  exact Logged.fails_bind.mpr (.inl hfails)

lemma returns_adaptResource_of_not_awaits (h : ∀ s, ¬Awaits r s) :
    (r.adaptTemplate (adaptTemplate c)).Returns r := by
  refine returns_adaptResource_self fun s hs hneeded => ?_
  obtain ⟨hclaimed, hcontainers⟩ := isNeeded_iff.mp hneeded
  by_contra hnone
  exact h s ⟨hs, hclaimed, hcontainers, fun x hx hname => hnone ⟨x, hx, hname⟩⟩

/-- A pod that awaits its init container gets it, and all else stays. -/
structure GetsOpener (c : Context) (r u : Resource) : Prop where
  opened : ∀ s, Awaits r s → IsDistinct s → ∃ x, Opens c s x ∧ u = withInit r x
  unchanged : (∀ s, ¬Awaits r s) → u = r

lemma exists_getsOpener (c : Context)
    (hmounted : ∀ s, Awaits r s → ∀ v ∈ claims s, IsMounted s v.name) :
    ∃ u, (r.adaptTemplate (adaptTemplate c)).Returns u ∧ GetsOpener c r u := by
  by_cases h : ∃ s, Awaits r s
  · obtain ⟨s, hs⟩ := h
    refine ⟨_, returns_adaptResource hs (hmounted s hs), fun s' hs' hdistinct => ?_, ?_⟩
    · cases hs.pod.symm.trans hs'.pod
      exact ⟨opener c s, opens_opener hdistinct (hmounted s hs), rfl⟩
    · exact fun hnot => absurd hs (hnot s)
  · have hnot : ∀ s, ¬Awaits r s := fun s hs => h ⟨s, hs⟩
    refine ⟨r, returns_adaptResource_of_not_awaits hnot, fun s hs => absurd hs (hnot s), ?_⟩
    exact fun _ => rfl

/-- Some pod awaits its init container and claims a volume that none of its containers mounts. -/
def HasUnmounted (d : Collection) : Prop :=
  ∃ r ∈ d, ∃ s, Awaits r s ∧ ∃ v ∈ claims s, ¬IsMounted s v.name

lemma exists_fails_adapt {platform : Config.Platform} {before : Collection}
    (h : HasUnmounted before) :
    ∃ volume, ((enricher c).adapt platform before).Fails (.resource (.noMount volume)) := by
  obtain ⟨r, hr, s, hs, v, hv, hnot⟩ := h
  obtain ⟨volume, hfails⟩ := fails_adaptResource (c := c) hs hv hnot
  obtain ⟨after, hafter⟩ | ⟨error, herror⟩ :=
    Logged.returns_or_fails ((enricher c).adapt platform before)
  · obtain ⟨u, _, hu⟩ := Except.exists_mem_of_mapM ((Logged.outcome_mapM _ _).symm.trans hafter) hr
    exact absurd hfails (Logged.Returns.not_fails hu)
  · obtain ⟨r', _, hr'⟩ := Logged.exists_of_fails_mapM herror
    obtain ⟨volume', rfl⟩ := noMount_of_adaptResource hr'
    exact ⟨volume', herror⟩

/-- **Claimed volumes are opened where they are mounted.**  That fails just if a claimed volume of a
pod is not mounted. -/
theorem getsOpener_adapt (c : Context) (platform : Config.Platform) (before : Collection) :
    ((∃ volume, ((enricher c).adapt platform before).Fails (.resource (.noMount volume))) ↔
      HasUnmounted before) ∧
    (¬HasUnmounted before → ∃ after, ((enricher c).adapt platform before).Returns after ∧
      List.Forall₂ (GetsOpener c) before after) := by
  have hreturns : ¬HasUnmounted before → ∃ after,
      ((enricher c).adapt platform before).Returns after ∧
        List.Forall₂ (GetsOpener c) before after := by
    refine fun hnot => Logged.exists_returns_mapM_forall₂ fun r hr => ?_
    refine exists_getsOpener c fun s hs v hv => ?_
    by_contra hunmounted
    exact hnot ⟨r, hr, s, hs, v, hv, hunmounted⟩
  refine ⟨⟨?_, exists_fails_adapt⟩, hreturns⟩
  rintro ⟨volume, hfails⟩
  by_contra hnot
  obtain ⟨after, hafter, _⟩ := hreturns hnot
  exact hafter.not_fails hfails

/-- A volume is mounted where another container has mounted the other one before, and at a path of
its own besides. -/
def sharingPod : PodSpec :=
  let claimed (name : String) : Volume :=
    { (default : Volume) with name, persistentVolumeClaim := some default }
  let container (name : String) (mounts : List (String × String)) : Container :=
    { (default : Container) with
      name
      volumeMounts := some (mounts.map fun (name, mountPath) =>
        { (default : VolumeMount) with name, mountPath }) }
  { (default : PodSpec) with
    containers := [container "web" [("data", "/data")],
      container "audit" [("logs", "/data"), ("logs", "/logs")]]
    volumes := some [claimed "data", claimed "logs"] }

def sharingTemplate : Resource where
  metadata := { (default : ObjectMeta) with name := some "web" }
  content := .podTemplate (some { (default : PodTemplateSpec) with spec := some sharingPod })

/-- Although the volumes could be opened at different paths, they are opened at one. -/
theorem paths_opener_sharingPod :
    Awaits sharingTemplate sharingPod ∧ IsDistinct sharingPod ∧
    (∀ v ∈ claims sharingPod, IsMounted sharingPod v.name) ∧
    ∃ x, ((enricher Enrichment.shop.context).adapt .kubernetes [sharingTemplate]).Returns
        [withInit sharingTemplate x] ∧
      x.mounts.map (fun m => (m.name, m.mountPath)) = [("data", "/data"), ("logs", "/data")] ∧
      ¬(x.mounts.map (·.mountPath)).Nodup := by
  have hawaits : Awaits sharingTemplate sharingPod := ⟨rfl, by decide, by decide, by decide⟩
  have hdistinct : IsDistinct sharingPod := ⟨by decide, by decide⟩
  have hmounted : ∀ v ∈ claims sharingPod, IsMounted sharingPod v.name := by
    unfold IsMounted
    decide
  refine ⟨hawaits, hdistinct, hmounted, opener Enrichment.shop.context sharingPod, ?_, rfl,
    by decide⟩
  exact Logged.returns_mapM.mpr (.cons (returns_adaptResource hawaits hmounted) .nil)

end Enricher.VolumePermissions
end Manifests
