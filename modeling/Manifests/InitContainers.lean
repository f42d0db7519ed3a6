import Manifests.Logged
import Manifests.Object.Pod

/-!
The init containers of a pod template, told apart by name.
-/
namespace Manifests.PodTemplateSpec

def initContainers (t : PodTemplateSpec) : List Container :=
  (t.spec.bind (·.initContainers)).getD []

def initContainer? (t : PodTemplateSpec) (name : String) : Option Container :=
  t.initContainers.find? (·.name == name)

def hasInitContainer (t : PodTemplateSpec) (name : String) : Bool := (t.initContainer? name).isSome

/-- The template with a container behind its init containers. -/
def pushInitContainer (t : PodTemplateSpec) (c : Container) : PodTemplateSpec :=
  let spec := t.spec.getD default
  { t with spec := some { spec with initContainers := some (t.initContainers ++ [c]) } }

/-- Adds an init container.  One that is already there is reported and left alone, and a different
one of the same name is refused. -/
def addInitContainer (t : PodTemplateSpec) (c : Container) : Logged PodTemplateSpec :=
  match t.initContainer? c.name with
  | none => return t.pushInitContainer c
  | some present =>
    if present = c then do
      Logged.warn ("Trying to add init-container " ++ c.name ++ " a second time. Ignoring ....")
      return t
    else
      let template := (t.metadata.bind (·.name)).getD ""
      throw (.resource (.initContainerConflict template c.name))

/-- Removes the init containers of a name; an empty list becomes absent. -/
def removeInitContainer (t : PodTemplateSpec) (name : String) : PodTemplateSpec :=
  { t with spec := t.spec.map fun spec =>
    { spec with initContainers :=
      (spec.initContainers.map fun l => l.filter (·.name != name)).filter (!·.isEmpty) } }

/-- A change of the init containers of a template. -/
inductive InitChange where
  | append (container : Container)
  | remove (name : String)
  deriving DecidableEq

/-- What is told of a change. -/
inductive InitAnswer where
  | appended
  | refused (error : Error)
  | removed (found : Bool)
  deriving DecidableEq

/-- The template behind a change, with the answer.  A refusal leaves the template alone, and a
removal has found something if fewer containers are left. -/
def changeInits (t : PodTemplateSpec) : InitChange → PodTemplateSpec × InitAnswer
  | .append c =>
    match (t.addInitContainer c).outcome with
    | .ok changed => (changed, .appended)
    | .error error => (t, .refused error)
  | .remove name =>
    let changed := t.removeInitContainer name
    (changed, .removed (changed.initContainers.length != t.initContainers.length))

@[simp] theorem initContainers_pushInitContainer (t : PodTemplateSpec) (c : Container) :
    (t.pushInitContainer c).initContainers = t.initContainers ++ [c] := rfl

theorem initContainers_removeInitContainer (t : PodTemplateSpec) (name : String) :
    (t.removeInitContainer name).initContainers = t.initContainers.filter (·.name != name) := by
  obtain ⟨m, spec⟩ := t
  cases spec with
  | none => rfl
  | some s =>
    cases h : s.initContainers with
    | none => simp [initContainers, removeInitContainer, h]
    | some l =>
      cases hl : l.filter (·.name != name) <;>
        simp [initContainers, removeInitContainer, h, hl, Option.filter]

end Manifests.PodTemplateSpec
