import Manifests.Object.Pod
import Manifests.Overlay

/-!
Overrides of pod templates.  Containers are matched by name, and unnamed ones by their place.
-/
namespace Manifests

/-- A variable without any value, which removes. -/
def EnvVar.isEmpty (v : EnvVar) : Bool := v.valueFrom.isNone && v.value.getD "" == ""

def overlayVariable (base : List EnvVar) (v : EnvVar) : List EnvVar :=
  if v.isEmpty then base.filter (·.name != v.name) else KeyedList.put (·.name == v.name) v base

def overlayVariables (base patch : List EnvVar) : List EnvVar := patch.foldl overlayVariable base

def Container.overlay (base patch : Container) : Container :=
  { base with
    image := patch.image <|> base.image
    imagePullPolicy := patch.imagePullPolicy <|> base.imagePullPolicy
    command := patch.command <|> base.command
    args := patch.args <|> base.args
    workingDir := patch.workingDir <|> base.workingDir
    resources := patch.resources <|> base.resources
    livenessProbe := patch.livenessProbe <|> base.livenessProbe
    readinessProbe := patch.readinessProbe <|> base.readinessProbe
    securityContext := patch.securityContext <|> base.securityContext
    env := KeyedList.merge? overlayVariables base.env patch.env
    ports := KeyedList.merge? (KeyedList.putAll fun p q => q.containerPort == p.containerPort)
      base.ports patch.ports
    volumeMounts := KeyedList.merge? (KeyedList.putAll fun m n => n.mountPath == m.mountPath)
      base.volumeMounts patch.volumeMounts }

/-- The place of the container that the override at `index` is for. -/
def overriddenAt? (base : List Container) (index : Nat) (patch : Container) : Option Nat :=
  if patch.name = "" then if index < base.length then some index else none
  else base.findIdx? (·.name == patch.name)

/-- Lays overrides over containers, one after the other, the first of them at `index`.  An
override that is for none of them is added as it is. -/
def overlayContainers (index : Nat) (base : List Container) : List Container → List Container
  | [] => base
  | patch :: rest =>
    let merged := match overriddenAt? base index patch with
      | some i => base.modify i (·.overlay patch)
      | none => base ++ [patch]
    overlayContainers (index + 1) merged rest

def PodSpec.overlay (base patch : PodSpec) : PodSpec :=
  { base with
    containers := overlayContainers 0 base.containers patch.containers
    volumes := KeyedList.merge? (KeyedList.putAll fun v w => w.name == v.name)
      base.volumes patch.volumes
    initContainers := patch.initContainers <|> base.initContainers
    serviceAccountName := patch.serviceAccountName <|> base.serviceAccountName
    restartPolicy := patch.restartPolicy <|> base.restartPolicy
    securityContext := patch.securityContext <|> base.securityContext
    nodeSelector := Overlay.texts base.nodeSelector patch.nodeSelector }

/-- An optional part under an optional override; an absent part counts as an empty one. -/
def overlayPart {α : Type} [Inhabited α] (overlay : α → α → α) (base patch : Option α) : Option α :=
  match patch with
  | none => base
  | some patch => some (overlay (base.getD default) patch)

def PodTemplateSpec.overlay (base patch : PodTemplateSpec) : PodTemplateSpec where
  metadata := overlayPart ObjectMeta.overlay base.metadata patch.metadata
  spec := overlayPart PodSpec.overlay base.spec patch.spec

end Manifests
