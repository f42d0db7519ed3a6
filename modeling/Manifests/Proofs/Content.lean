import Mathlib.Tactic.Lemma
import Manifests.Enrichment.Labelling

/-! Views of the content of a resource that hold for every kind: what it selects, which ports and
triggers it has, and what is left of it without them.  Each operation on contents is known by what
it does to the views. -/
namespace Manifests

namespace PodSpec

def withInits (inits : Option (List Container)) (s : PodSpec) : PodSpec :=
  { s with initContainers := inits }

def withContainers (containers : List Container) (s : PodSpec) : PodSpec := { s with containers }

end PodSpec

def LabelSelector.bare (s : LabelSelector) : LabelSelector := { s with matchLabels := none }

namespace Content

/-- The labels that a content selects by, as far as they are given. -/
def selector? : Content → Option (SortedMap String)
  | service spec => spec.bind (·.selector)
  | replicaSet spec => spec.bind (·.selector.matchLabels)
  | replicationController spec => spec.bind (·.selector)
  | deployment spec => spec.bind (·.selector.matchLabels)
  | deploymentConfig _ spec => spec.bind (·.selector)
  | statefulSet spec => spec.bind (·.selector.matchLabels)
  | daemonSet spec => spec.bind (·.selector.matchLabels)
  | job spec => spec.bind fun s => s.selector.bind (·.matchLabels)
  | secret _ | configMap _ | podTemplate _ => none

def servicePorts : Content → Option (List ServicePort)
  | service spec => spec.bind (·.ports)
  | _ => none

def triggers : Content → Option (List DeploymentTrigger)
  | deploymentConfig _ spec => spec.bind (·.triggers)
  | _ => none

/-- The content without its specification. -/
def envelope : Content → Content
  | service _ => service none
  | replicaSet _ => replicaSet none
  | replicationController _ => replicationController none
  | deployment _ => deployment none
  | deploymentConfig version _ => deploymentConfig version none
  | statefulSet _ => statefulSet none
  | daemonSet _ => daemonSet none
  | job _ => job none
  | secret content => secret content
  | configMap content => configMap content
  | podTemplate _ => podTemplate none

/-- The specification, where there is one, without what the other views show of it. -/
def bare? : Content → Option Content
  | service spec => spec.map fun s => service (some { s with selector := none, ports := none })
  | replicaSet spec => spec.map fun s =>
    replicaSet (some { s with replicas := none, selector := s.selector.bare, template := none })
  | replicationController spec => spec.map fun s =>
    replicationController (some { s with replicas := none, selector := none, template := none })
  | deployment spec => spec.map fun s =>
    deployment (some { s with replicas := none, selector := s.selector.bare, template := default })
  | statefulSet spec => spec.map fun s =>
    statefulSet (some { s with
      replicas := none, selector := s.selector.bare, template := default })
  | daemonSet spec => spec.map fun s =>
    daemonSet (some { s with selector := s.selector.bare, template := default })
  | job spec => spec.map fun s =>
    job (some { s with selector := s.selector.map LabelSelector.bare, template := default })
  | deploymentConfig _ _ | secret _ | configMap _ | podTemplate _ => none

section ModifyTemplate
variable (f : PodTemplateSpec → PodTemplateSpec) (c : Content)

@[simp] lemma selector?_modifyTemplate : (c.modifyTemplate f).selector? = c.selector? := by
  cases c <;> rename_i spec <;> cases spec <;> rfl

@[simp] lemma servicePorts_modifyTemplate :
    (c.modifyTemplate f).servicePorts = c.servicePorts := by
  cases c <;> rfl

@[simp] lemma triggers_modifyTemplate : (c.modifyTemplate f).triggers = c.triggers := by
  cases c <;> rename_i spec <;> cases spec <;> rfl

@[simp] lemma replicas?_modifyTemplate : (c.modifyTemplate f).replicas? = c.replicas? := by
  cases c <;> rename_i spec <;> cases spec <;> rfl

@[simp] lemma envelope_modifyTemplate : (c.modifyTemplate f).envelope = c.envelope := by
  cases c <;> rfl

@[simp] lemma bare?_modifyTemplate : (c.modifyTemplate f).bare? = c.bare? := by
  cases c <;> rename_i spec <;> cases spec <;> rfl

end ModifyTemplate

lemma kind_eq_of_envelope_eq {c d : Content} (h : d.envelope = c.envelope) : d.kind = c.kind := by
  cases c <;> cases d <;> first | rfl | cases h

end Content
end Manifests
