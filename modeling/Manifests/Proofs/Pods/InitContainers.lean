import Mathlib.Data.List.Nodup
import Manifests.InitContainers
import Manifests.Proofs.Content
import Manifests.Proofs.Outcome

/-! The books that a template keeps of its init containers.  Whatever is appended and removed, in
whatever order, their names stay distinct, every answer tells what was there, and nothing else of
the template changes. -/
namespace Manifests.PodTemplateSpec

variable {t u v : PodTemplateSpec} {c : Container} {name : String}

def initNames (t : PodTemplateSpec) : List String := t.initContainers.map (·.name)

/-- The init containers of a name. -/
def initsNamed (t : PodTemplateSpec) (name : String) : List Container :=
  t.initContainers.filter (·.name == name)

/-- The init containers of all other names. -/
def initsBesides (t : PodTemplateSpec) (name : String) : List Container :=
  t.initContainers.filter (·.name != name)

/-- Two templates that differ in init containers at most; a specification that is absent in the
first one counts as an empty one. -/
structure SameBesideInits (t u : PodTemplateSpec) : Prop where
  metadata : u.metadata = t.metadata
  spec : u.spec = t.spec ∨ ∃ inits, u.spec = some ((t.spec.getD default).withInits inits)

lemma SameBesideInits.refl (t : PodTemplateSpec) : t.SameBesideInits t := ⟨rfl, .inl rfl⟩

lemma SameBesideInits.trans (htu : t.SameBesideInits u) (huv : u.SameBesideInits v) :
    t.SameBesideInits v := by
  refine ⟨huv.metadata.trans htu.metadata, ?_⟩
  obtain hv | ⟨inits, hv⟩ := huv.spec
  · rw [hv]
    exact htu.spec
  · refine .inr ⟨inits, ?_⟩
    obtain hu | ⟨more, hu⟩ := htu.spec
    · rw [hv, hu]
    · rw [hv, hu, Option.getD_some]
      rfl

/-! ### Init containers by name -/

lemma initContainer?_eq_none_iff : t.initContainer? name = none ↔ name ∉ t.initNames := by
  simp [initContainer?, initNames]

lemma name_of_initContainer? (h : t.initContainer? name = some c) : c.name = name := by
  have hfound := List.find?_some h
  simpa using hfound

lemma mem_of_initContainer? (h : t.initContainer? name = some c) : c ∈ t.initContainers :=
  List.mem_of_find?_eq_some h

/-- Where names are distinct, an init container is the only one of its name. -/
lemma eq_of_nodup (h : t.initNames.Nodup) {x y : Container} (hx : x ∈ t.initContainers)
    (hy : y ∈ t.initContainers) (hxy : x.name = y.name) : x = y :=
  List.inj_on_of_nodup_map h hx hy hxy

lemma initsNamed_of_mem (h : t.initNames.Nodup) (hc : c ∈ t.initContainers) :
    t.initsNamed c.name = [c] := by
  have hnodup : (t.initsNamed c.name).Nodup := (List.Nodup.of_map _ h).filter _
  refine List.perm_singleton.mp ((List.perm_ext_iff_of_nodup hnodup (by simp)).mpr fun x => ?_)
  rw [initsNamed, List.mem_filter, List.mem_singleton, beq_iff_eq]
  constructor
  · rintro ⟨hx, hname⟩
    exact eq_of_nodup h hx hc hname
  · rintro rfl
    exact ⟨hc, rfl⟩

lemma initsNamed_eq_nil_iff : t.initsNamed name = [] ↔ name ∉ t.initNames := by
  simp [initsNamed, initNames]

@[simp] lemma initNames_pushInitContainer :
    (t.pushInitContainer c).initNames = t.initNames ++ [c.name] := by
  simp [initNames]

lemma initsNamed_pushInitContainer (h : c.name ∉ t.initNames) :
    (t.pushInitContainer c).initsNamed c.name = [c] := by
  rw [initsNamed, initContainers_pushInitContainer, List.filter_append]
  change t.initsNamed c.name ++ _ = _
  rw [initsNamed_eq_nil_iff.mpr h]
  simp

lemma initsBesides_pushInitContainer :
    (t.pushInitContainer c).initsBesides c.name = t.initsBesides c.name := by
  simp [initsBesides]

lemma sameBesideInits_pushInitContainer (t : PodTemplateSpec) (c : Container) :
    t.SameBesideInits (t.pushInitContainer c) :=
  ⟨rfl, .inr ⟨some (t.initContainers ++ [c]), rfl⟩⟩

lemma initNames_removeInitContainer :
    (t.removeInitContainer name).initNames = t.initNames.filter (· != name) := by
  rw [initNames, initContainers_removeInitContainer, initNames, List.filter_map]
  rfl

lemma initsBesides_removeInitContainer :
    (t.removeInitContainer name).initsBesides name = t.initsBesides name := by
  rw [initsBesides, initContainers_removeInitContainer, List.filter_filter]
  simp [initsBesides]

lemma sameBesideInits_removeInitContainer (t : PodTemplateSpec) (name : String) :
    t.SameBesideInits (t.removeInitContainer name) := by
  obtain ⟨m, spec⟩ := t
  cases spec with
  | none => exact ⟨rfl, .inl rfl⟩
  | some s => exact ⟨rfl, .inr ⟨_, rfl⟩⟩

/-- Fewer containers are left just if one of the name was there. -/
lemma length_removeInitContainer_ne_iff :
    (t.removeInitContainer name).initContainers.length ≠ t.initContainers.length ↔
      name ∈ t.initNames := by
  rw [initContainers_removeInitContainer, ne_eq, List.length_filter_eq_length_iff]
  simp [initNames]

/-! ### One change -/

/-- The error that names the template and the container. -/
def conflict (t : PodTemplateSpec) (c : Container) : Error :=
  .resource (.initContainerConflict ((t.metadata.bind (·.name)).getD "") c.name)

/-- A container is appended, it is there already, or another one has its name. -/
lemma changeInits_append_cases (t : PodTemplateSpec) (c : Container) :
    (c.name ∉ t.initNames ∧ t.changeInits (.append c) = (t.pushInitContainer c, .appended)) ∨
    (c ∈ t.initContainers ∧ t.changeInits (.append c) = (t, .appended)) ∨
    ∃ present ∈ t.initContainers, present.name = c.name ∧ present ≠ c ∧
      t.changeInits (.append c) = (t, .refused (t.conflict c)) := by
  unfold changeInits
  dsimp only
  rw [addInitContainer]
  cases hpresent : t.initContainer? c.name with
  | none => exact .inl ⟨initContainer?_eq_none_iff.mp hpresent, rfl⟩
  | some present =>
    have hmem := mem_of_initContainer? hpresent
    by_cases heq : present = c
    · subst heq
      refine .inr (.inl ⟨hmem, ?_⟩)
      dsimp only
      rw [if_pos rfl]
      rfl
    · refine .inr (.inr ⟨present, hmem, name_of_initContainer? hpresent, heq, ?_⟩)
      dsimp only
      rw [if_neg heq]
      rfl

/-- What the books ask of a change: of the template in front of it, of the answer and of the
template behind it. -/
def Accounts (before : PodTemplateSpec) : InitChange → InitAnswer → PodTemplateSpec → Prop
  | .append c, answer, after =>
    (answer = .appended ↔ ∀ x ∈ before.initContainers, x.name = c.name → x = c) ∧
    (answer = .appended →
      after.initsNamed c.name = [c] ∧ after.initsBesides c.name = before.initsBesides c.name) ∧
    (answer ≠ .appended → answer = .refused (before.conflict c) ∧ after = before)
  | .remove name, answer, after =>
    (answer = .removed true ↔ name ∈ before.initNames) ∧
    (answer = .removed false ↔ name ∉ before.initNames) ∧
    name ∉ after.initNames ∧ after.initsBesides name = before.initsBesides name ∧
    (before.spec = none → after = before)

lemma accounts_changeInits (h : t.initNames.Nodup) (change : InitChange) :
    t.Accounts change (t.changeInits change).2 (t.changeInits change).1 := by
  cases change with
  | append c =>
    obtain ⟨hnew, hchange⟩ | ⟨hmem, hchange⟩ | ⟨present, hpresent, hname, hne, hchange⟩ :=
      changeInits_append_cases t c
    · rw [hchange]
      refine ⟨iff_of_true rfl fun x hx hname => absurd ?_ hnew, fun _ => ?_, fun hnot => ?_⟩
      · exact hname ▸ List.mem_map_of_mem hx
      · exact ⟨initsNamed_pushInitContainer hnew, initsBesides_pushInitContainer⟩
      · exact absurd rfl hnot
    · rw [hchange]
      refine ⟨iff_of_true rfl fun x hx => eq_of_nodup h hx hmem, fun _ => ?_, fun hnot => ?_⟩
      · exact ⟨initsNamed_of_mem h hmem, rfl⟩
      · exact absurd rfl hnot
    · rw [hchange]
      refine ⟨iff_of_false (by simp) fun hall => hne (hall present hpresent hname), ?_, ?_⟩
      · intro hanswer
        cases hanswer
      · exact fun _ => ⟨rfl, rfl⟩
  | remove name =>
    refine ⟨?found, ?missing, ?absent, initsBesides_removeInitContainer, ?spec⟩
    case found =>
      rw [← length_removeInitContainer_ne_iff]
      simp [changeInits]
    case missing =>
      rw [← length_removeInitContainer_ne_iff]
      simp [changeInits]
    case absent =>
      change name ∉ (t.removeInitContainer name).initNames
      rw [initNames_removeInitContainer]
      simp
    case spec =>
      intro hspec
      change t.removeInitContainer name = t
      obtain ⟨m, spec⟩ := t
      cases hspec
      rfl

lemma nodup_changeInits (h : t.initNames.Nodup) (change : InitChange) :
    (t.changeInits change).1.initNames.Nodup := by
  cases change with
  | append c =>
    obtain ⟨hnew, hchange⟩ | ⟨_, hchange⟩ | ⟨_, _, _, _, hchange⟩ := changeInits_append_cases t c
    · rw [hchange, initNames_pushInitContainer]
      refine List.Nodup.append h (List.nodup_singleton _) ?_
      rwa [List.disjoint_singleton]
    · rwa [hchange]
    · rwa [hchange]
  | remove name =>
    change (t.removeInitContainer name).initNames.Nodup
    rw [initNames_removeInitContainer]
    exact h.filter _

lemma sameBesideInits_changeInits (t : PodTemplateSpec) (change : InitChange) :
    t.SameBesideInits (t.changeInits change).1 := by
  cases change with
  | append c =>
    obtain ⟨_, hchange⟩ | ⟨_, hchange⟩ | ⟨_, _, _, _, hchange⟩ := changeInits_append_cases t c
    · rw [hchange]
      exact sameBesideInits_pushInitContainer t c
    · rw [hchange]
      exact .refl t
    · rw [hchange]
      exact .refl t
  | remove name => exact sameBesideInits_removeInitContainer t name

/-! ### Any run of changes -/

/-- The template behind a run of changes. -/
def changeAllInits (t : PodTemplateSpec) (changes : List InitChange) : PodTemplateSpec :=
  changes.foldl (fun u change => (u.changeInits change).1) t

lemma nodup_changeAllInits (h : t.initNames.Nodup) (changes : List InitChange) :
    (t.changeAllInits changes).initNames.Nodup := by
  induction changes generalizing t with
  | nil => exact h
  | cons change changes ih => exact ih (nodup_changeInits h change)

lemma sameBesideInits_changeAllInits (t : PodTemplateSpec) (changes : List InitChange) :
    t.SameBesideInits (t.changeAllInits changes) := by
  induction changes generalizing t with
  | nil => exact .refl t
  | cons change changes ih =>
    exact (sameBesideInits_changeInits t change).trans (ih (t.changeInits change).1)

/-- **The books are right after every change of a run.**  Changes in front of it neither make two
init containers of one name nor touch anything else. -/
theorem accounts_changeAllInits (h : t.initNames.Nodup) (front : List InitChange)
    (change : InitChange) :
    let before := t.changeAllInits front
    let (after, answer) := before.changeInits change
    after = t.changeAllInits (front ++ [change]) ∧ before.Accounts change answer after ∧
      after.initNames.Nodup ∧ t.SameBesideInits after := by
  have hafter : ((t.changeAllInits front).changeInits change).1 =
      t.changeAllInits (front ++ [change]) := by
    rw [changeAllInits, changeAllInits, List.foldl_concat]
  refine ⟨hafter, accounts_changeInits (nodup_changeAllInits h front) change, ?_, ?_⟩
  · exact hafter ▸ nodup_changeAllInits h (front ++ [change])
  · exact hafter ▸ sameBesideInits_changeAllInits t (front ++ [change])

/-- A container by the name of the one in `openingTemplate`. -/
def openingContainer (image : String) : Container :=
  { (default : Container) with name := "open", image := some image }

def openingTemplate : PodTemplateSpec :=
  { (default : PodTemplateSpec) with
    spec := some { (default : PodSpec) with initContainers := some [openingContainer "busybox"] } }

/-- Another container of the name is refused while the first one is there, and appended once that is
removed. -/
theorem accounts_changeAllInits_opening :
    let refused := openingTemplate.changeInits (.append (openingContainer "alpine"))
    let front := [.append (openingContainer "alpine"), .remove "open"]
    let before := openingTemplate.changeAllInits front
    let (after, answer) := before.changeInits (.append (openingContainer "alpine"))
    openingTemplate.initNames.Nodup ∧ refused.1 = openingTemplate ∧
      refused.2 = .refused (openingTemplate.conflict (openingContainer "alpine")) ∧
      answer = .appended ∧ after.initsNamed "open" = [openingContainer "alpine"] ∧
      after.initNames.Nodup ∧ openingTemplate.SameBesideInits after := by
  have hnodup : openingTemplate.initNames.Nodup := by decide
  obtain ⟨-, haccounts, hafter, hsame⟩ := accounts_changeAllInits hnodup
    [.append (openingContainer "alpine"), .remove "open"] (.append (openingContainer "alpine"))
  exact ⟨hnodup, rfl, rfl, rfl, (haccounts.2.1 rfl).1, hafter, hsame⟩

end Manifests.PodTemplateSpec
