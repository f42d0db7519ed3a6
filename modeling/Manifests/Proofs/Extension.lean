import Mathlib.Data.List.Forall2
import Manifests.Proofs.Content

/-! When one resource extends another: nothing that was given is lost or changed, and lists have
grown at their ends.  A blank text and an absent list give nothing.  The relation is a preorder on
every level, from texts up to collections. -/
namespace Manifests

section Parts
variable {α : Type}

def Keeps (old new : Option α) : Prop := ∀ a, old = some a → new = some a

def KeepsText (old new : Option String) : Prop :=
  ∀ s, old = some s → Text.isBlank s = false → new = some s

def KeepsEntries (old new : Option (SortedMap String)) : Prop :=
  ∀ k v, (old.getD ∅).get? k = some v → (new.getD ∅).get? k = some v

def KeepsPrefix (old new : Option (List α)) : Prop := old.getD [] <+: new.getD []

def KeepsPart (R : α → α → Prop) (old new : Option α) : Prop :=
  ∀ a, old = some a → ∃ b, new = some b ∧ R a b

/-- Every item is still at its place. -/
def KeepsItems (R : α → α → Prop) (old new : List α) : Prop :=
  ∀ (i : Nat) (a : α), old[i]? = some a → ∃ b, new[i]? = some b ∧ R a b

variable {R : α → α → Prop}

lemma Keeps.refl (a : Option α) : Keeps a a := fun _ h => h

lemma Keeps.trans {a b c : Option α} (h : Keeps a b) (h' : Keeps b c) : Keeps a c :=
  fun x hx => h' x (h x hx)

lemma Keeps.orElse (a b : Option α) : Keeps a (a <|> b) := by
  rintro x rfl
  rfl

lemma Keeps.of_none {a : Option α} : Keeps none a := nofun

lemma KeepsText.refl (a : Option String) : KeepsText a a := fun _ h _ => h

lemma KeepsText.trans {a b c : Option String} (h : KeepsText a b) (h' : KeepsText b c) :
    KeepsText a c := fun x hx hb => h' x (h x hx hb) hb

lemma KeepsEntries.refl (m : Option (SortedMap String)) : KeepsEntries m m := fun _ _ h => h

lemma KeepsEntries.trans {a b c : Option (SortedMap String)} (h : KeepsEntries a b)
    (h' : KeepsEntries b c) : KeepsEntries a c := fun k v hv => h' k v (h k v hv)

lemma KeepsPrefix.refl (l : Option (List α)) : KeepsPrefix l l := List.prefix_rfl

lemma KeepsPrefix.trans {a b c : Option (List α)} (h : KeepsPrefix a b) (h' : KeepsPrefix b c) :
    KeepsPrefix a c := List.IsPrefix.trans h h'

lemma KeepsPart.refl (hR : ∀ a, R a a) (x : Option α) : KeepsPart R x x :=
  fun a h => ⟨a, h, hR a⟩

lemma KeepsPart.trans (hR : ∀ {a b c}, R a b → R b c → R a c) {x y z : Option α}
    (h : KeepsPart R x y) (h' : KeepsPart R y z) : KeepsPart R x z := by
  intro a ha
  obtain ⟨b, hb, hab⟩ := h a ha
  obtain ⟨c, hc, hbc⟩ := h' b hb
  exact ⟨c, hc, hR hab hbc⟩

lemma KeepsPart.map {f : α → α} {x : Option α} (hf : ∀ a, x = some a → R a (f a)) :
    KeepsPart R x (x.map f) := by
  intro a ha
  exact ⟨f a, by rw [ha]; rfl, hf a ha⟩

lemma KeepsPart.of_none {x : Option α} : KeepsPart R none x := nofun

lemma KeepsItems.refl (hR : ∀ a, R a a) (l : List α) : KeepsItems R l l :=
  fun _ a h => ⟨a, h, hR a⟩

lemma KeepsItems.trans (hR : ∀ {a b c}, R a b → R b c → R a c) {x y z : List α}
    (h : KeepsItems R x y) (h' : KeepsItems R y z) : KeepsItems R x z := by
  intro i a ha
  obtain ⟨b, hb, hab⟩ := h i a ha
  obtain ⟨c, hc, hbc⟩ := h' i b hb
  exact ⟨c, hc, hR hab hbc⟩

lemma KeepsItems.nil {l : List α} : KeepsItems R [] l := fun _ _ h => by simp at h

lemma KeepsItems.cons {a b : α} {l m : List α} (h : R a b) (hl : KeepsItems R l m) :
    KeepsItems R (a :: l) (b :: m) := by
  rintro (_ | i) x hx
  · cases hx
    exact ⟨b, rfl, h⟩
  · exact hl i x hx

lemma KeepsItems.of_forall₂ {l m : List α} (h : List.Forall₂ R l m) : KeepsItems R l m := by
  induction h with
  | nil => exact nil
  | cons h _ ih => exact ih.cons h

lemma KeepsItems.map {f : α → α} {l : List α} (hf : ∀ a ∈ l, R a (f a)) :
    KeepsItems R l (l.map f) := by
  intro i a ha
  exact ⟨f a, by rw [List.getElem?_map, ha]; rfl, hf a (List.mem_of_getElem? ha)⟩

/-- Only the last item is replaced. -/
lemma KeepsItems.replaceLast (hR : ∀ a, R a a) {l : List α} {a b : α} (hl : l.getLast? = some a)
    (h : R a b) : KeepsItems R l (l.dropLast ++ [b]) := by
  obtain ⟨init, rfl⟩ := List.getLast?_eq_some_iff.mp hl
  rw [List.dropLast_concat]
  apply KeepsItems.of_forall₂
  exact List.rel_append (List.forall₂_same.mpr fun x _ => hR x) (.cons h .nil)

lemma KeepsItems.append {l m : List α} (h : KeepsItems R l m) (extra : List α) :
    KeepsItems R l (m ++ extra) := by
  intro i a ha
  obtain ⟨b, hb, hab⟩ := h i a ha
  obtain ⟨hi, _⟩ := List.getElem?_eq_some_iff.mp hb
  exact ⟨b, by rw [List.getElem?_append_left hi, hb], hab⟩

end Parts

/-! ### Containers and pods -/

/-- The container without the fields that enrichers fill. -/
def Container.bare (c : Container) : Container :=
  { c with
    name := "", image := none, imagePullPolicy := none, readinessProbe := none,
    livenessProbe := none, securityContext := none, env := none, ports := none,
    volumeMounts := none }

structure Container.Extends (c d : Container) : Prop where
  name : Text.isBlank c.name = false → d.name = c.name
  image : KeepsText c.image d.image
  imagePullPolicy : KeepsText c.imagePullPolicy d.imagePullPolicy
  readinessProbe : Keeps c.readinessProbe d.readinessProbe
  livenessProbe : Keeps c.livenessProbe d.livenessProbe
  securityContext : Keeps c.securityContext d.securityContext
  env : KeepsPrefix c.env d.env
  ports : KeepsPrefix c.ports d.ports
  volumeMounts : KeepsPrefix c.volumeMounts d.volumeMounts
  bare : d.bare = c.bare

namespace Container.Extends

lemma refl (c : Container) : c.Extends c where
  name _ := rfl
  image := .refl _
  imagePullPolicy := .refl _
  readinessProbe := .refl _
  livenessProbe := .refl _
  securityContext := .refl _
  env := .refl _
  ports := .refl _
  volumeMounts := .refl _
  bare := rfl

lemma trans {c d e : Container} (h : c.Extends d) (h' : d.Extends e) : c.Extends e where
  name hc := by
    have hd := h.name hc
    rw [h'.name (hd ▸ hc), hd]
  image := h.image.trans h'.image
  imagePullPolicy := h.imagePullPolicy.trans h'.imagePullPolicy
  readinessProbe := h.readinessProbe.trans h'.readinessProbe
  livenessProbe := h.livenessProbe.trans h'.livenessProbe
  securityContext := h.securityContext.trans h'.securityContext
  env := h.env.trans h'.env
  ports := h.ports.trans h'.ports
  volumeMounts := h.volumeMounts.trans h'.volumeMounts
  bare := h'.bare.trans h.bare

end Container.Extends

/-- The pod specification without the fields that enrichers fill. -/
def PodSpec.bare (s : PodSpec) : PodSpec :=
  { s with containers := [], initContainers := none, volumes := none, serviceAccountName := none }

structure PodSpec.Extends (s t : PodSpec) : Prop where
  containers : KeepsItems Container.Extends s.containers t.containers
  initContainers : KeepsPrefix s.initContainers t.initContainers
  volumes : KeepsPrefix s.volumes t.volumes
  serviceAccountName : Keeps s.serviceAccountName t.serviceAccountName
  bare : t.bare = s.bare

namespace PodSpec.Extends

lemma refl (s : PodSpec) : s.Extends s where
  containers := .refl .refl _
  initContainers := .refl _
  volumes := .refl _
  serviceAccountName := .refl _
  bare := rfl

lemma trans {s t u : PodSpec} (h : s.Extends t) (h' : t.Extends u) : s.Extends u where
  containers := h.containers.trans .trans h'.containers
  initContainers := h.initContainers.trans h'.initContainers
  volumes := h.volumes.trans h'.volumes
  serviceAccountName := h.serviceAccountName.trans h'.serviceAccountName
  bare := h'.bare.trans h.bare

end PodSpec.Extends

/-! ### Metadata and templates -/

/-- The metadata without its name, labels and annotations. -/
def ObjectMeta.bare (m : ObjectMeta) : ObjectMeta :=
  { m with name := none, labels := none, annotations := none }

structure ObjectMeta.Extends (m n : ObjectMeta) : Prop where
  labels : KeepsEntries m.labels n.labels
  annotations : KeepsEntries m.annotations n.annotations
  bare : n.bare = m.bare

namespace ObjectMeta.Extends

lemma refl (m : ObjectMeta) : m.Extends m := ⟨.refl _, .refl _, rfl⟩

lemma trans {m n o : ObjectMeta} (h : m.Extends n) (h' : n.Extends o) : m.Extends o :=
  ⟨h.labels.trans h'.labels, h.annotations.trans h'.annotations, h'.bare.trans h.bare⟩

end ObjectMeta.Extends

structure PodTemplateSpec.Extends (t u : PodTemplateSpec) : Prop where
  metadata : KeepsPart (fun m n => m.Extends n ∧ n.name = m.name) t.metadata u.metadata
  spec : KeepsPart PodSpec.Extends t.spec u.spec

namespace PodTemplateSpec.Extends

lemma refl (t : PodTemplateSpec) : t.Extends t :=
  ⟨.refl (fun m => ⟨.refl m, rfl⟩) _, .refl .refl _⟩

lemma trans {t u v : PodTemplateSpec} (h : t.Extends u) (h' : u.Extends v) : t.Extends v :=
  ⟨h.metadata.trans (fun h h' => ⟨h.1.trans h'.1, h'.2.trans h.2⟩) h'.metadata,
    h.spec.trans .trans h'.spec⟩

end PodTemplateSpec.Extends

/-! ### Services -/

/-- The port without the fields that enrichers fill. -/
def ServicePort.bare (p : ServicePort) : ServicePort := { p with name := none, protocol := none }

structure ServicePort.Extends (p q : ServicePort) : Prop where
  name : KeepsText p.name q.name
  protocol : KeepsText p.protocol q.protocol
  bare : q.bare = p.bare

/-- Ports that are given are completed one by one, and none is added to them. -/
structure PortsExtend (old new : Option (List ServicePort)) : Prop where
  items : KeepsItems ServicePort.Extends (old.getD []) (new.getD [])
  length : old.getD [] ≠ [] → (new.getD []).length = (old.getD []).length

namespace PortsExtend

lemma refl (ports : Option (List ServicePort)) : PortsExtend ports ports :=
  ⟨.refl (fun _ => ⟨.refl _, .refl _, rfl⟩) _, fun _ => rfl⟩

lemma trans {x y z : Option (List ServicePort)} (h : PortsExtend x y) (h' : PortsExtend y z) :
    PortsExtend x z where
  items := h.items.trans (fun h h' =>
    ⟨h.name.trans h'.name, h.protocol.trans h'.protocol, h'.bare.trans h.bare⟩) h'.items
  length hx := by
    have hlen := h.length hx
    have hy : y.getD [] ≠ [] := by
      intro hy
      rw [hy] at hlen
      exact hx (List.length_eq_zero_iff.mp hlen.symm)
    rw [h'.length hy, hlen]

end PortsExtend

/-! ### Contents, resources and collections -/

structure Content.Extends (c d : Content) : Prop where
  envelope : d.envelope = c.envelope
  bare : Keeps c.bare? d.bare?
  replicas : Keeps c.replicas? d.replicas?
  selector : KeepsEntries c.selector? d.selector?
  template : KeepsPart PodTemplateSpec.Extends c.template? d.template?
  triggers : KeepsPrefix c.triggers d.triggers
  servicePorts : PortsExtend c.servicePorts d.servicePorts

namespace Content.Extends

lemma refl (c : Content) : c.Extends c where
  envelope := rfl
  bare := .refl _
  replicas := .refl _
  selector := .refl _
  template := .refl .refl _
  triggers := .refl _
  servicePorts := .refl _

lemma trans {c d e : Content} (h : c.Extends d) (h' : d.Extends e) : c.Extends e where
  envelope := h'.envelope.trans h.envelope
  bare := h.bare.trans h'.bare
  replicas := h.replicas.trans h'.replicas
  selector := h.selector.trans h'.selector
  template := h.template.trans .trans h'.template
  triggers := h.triggers.trans h'.triggers
  servicePorts := h.servicePorts.trans h'.servicePorts

end Content.Extends

structure Resource.Extends (r s : Resource) : Prop where
  name : KeepsText r.metadata.name s.metadata.name
  metadata : r.metadata.Extends s.metadata
  content : r.content.Extends s.content

namespace Resource.Extends

lemma refl (r : Resource) : r.Extends r := ⟨.refl _, .refl _, .refl _⟩

lemma trans {r s t : Resource} (h : r.Extends s) (h' : s.Extends t) : r.Extends t :=
  ⟨h.name.trans h'.name, h.metadata.trans h'.metadata, h.content.trans h'.content⟩

lemma kind {r s : Resource} (h : r.Extends s) : s.kind = r.kind :=
  Content.kind_eq_of_envelope_eq h.content.envelope

/-- A change of the content alone. -/
lemma of_content {r : Resource} {c : Content} (h : r.content.Extends c) :
    r.Extends { r with content := c } := ⟨.refl _, .refl _, h⟩

end Resource.Extends

/-- Every resource is still at its place and extended; others may follow. -/
def Collection.Extends (c d : Collection) : Prop := KeepsItems Resource.Extends c d

namespace Collection.Extends

lemma refl (c : Collection) : c.Extends c := KeepsItems.refl .refl c

lemma trans {c d e : Collection} (h : c.Extends d) (h' : d.Extends e) : c.Extends e :=
  KeepsItems.trans .trans h h'

end Collection.Extends
end Manifests
