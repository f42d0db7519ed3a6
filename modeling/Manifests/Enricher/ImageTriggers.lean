import Manifests.Enricher

/-!
The enricher that lets deployment configs follow the image streams of their containers.
-/
namespace Manifests.Enricher.ImageTriggers

def name : String := "forge-image-change-trigger"

def containersKey : Key :=
  ⟨"containers", some "", "Comma separated container names to trigger besides the generated ones"⟩

def automaticKey : Key :=
  ⟨"automatic", some "true", "Redeploy as soon as the image stream tag changes"⟩

def enrichAllKey : Key := ⟨"enrichAll", some "false", "Trigger on every container image"⟩

def trimImageKey : Key := ⟨"trimImage", some "false", "Blank the image of triggered containers"⟩

/-- The names that the setting lists. -/
def listedNames (c : Context) : List String :=
  (Text.splitAt ',' (c.textOr name containersKey "").toList).map fun piece =>
    String.ofList (Text.trimChars piece)

/-- Whether a container is to be triggered: all are, it is listed, or it runs a built image. -/
def isWanted (c : Context) (container image : String) : Bool :=
  c.isOn name enrichAllKey || (listedNames c).contains container ||
    (c.images.filterMap Config.Image.reference?).contains image

/-- The trigger of a container on the tag of its image. -/
def trigger (container image : String) (automatic : Bool) : DeploymentTrigger :=
  let image := ImageReference.parse image
  { type := "ImageChange"
    imageChangeParams := some {
      automatic := some automatic
      containerNames := [container]
      origin := { (default : ObjectReference) with
        kind := some "ImageStreamTag"
        name := some (image.simpleName ++ ":" ++ image.tag.getD "latest")
        namespaceName := image.user? } } }

/-- Whether some trigger names a container. -/
def covers (triggers : List DeploymentTrigger) (container : String) : Bool :=
  triggers.any fun t => match t.imageChangeParams with
    | some p => p.containerNames.contains container
    | none => false

/-- The trigger that a container gets behind the given ones. -/
def newTrigger? (c : Context) (triggers : List DeploymentTrigger) (container : Container) :
    Option DeploymentTrigger := do
  let image ← container.image.filter (· ≠ "")
  if container.name = "" || covers triggers container.name || !isWanted c container.name image then
    none
  else some (trigger container.name image (c.isOn name automaticKey))

def trim (c : Context) (container : Container) : Container :=
  if c.isOn name trimImageKey then { container with image := some "" } else container

/-- The containers and triggers after every container got the trigger it needs. -/
def addTriggers (c : Context) (triggers : List DeploymentTrigger) :
    List Container → List Container × List DeploymentTrigger
  | [] => ([], triggers)
  | container :: rest =>
    match newTrigger? c triggers container with
    | none =>
      let (containers, triggers) := addTriggers c triggers rest
      (container :: containers, triggers)
    | some t =>
      let (containers, triggers) := addTriggers c (triggers ++ [t]) rest
      (trim c container :: containers, triggers)

/-- A specification with its triggers; an empty list of them becomes absent. -/
def adaptSpec (c : Context) (s : DeploymentConfigSpec) : DeploymentConfigSpec :=
  match s.template.bind (·.spec) with
  | none => s
  | some pod =>
    let (containers, triggers) := addTriggers c (s.triggers.getD []) pod.containers
    { s with
      template := s.template.map fun t => { t with spec := some { pod with containers } }
      triggers := if triggers.isEmpty then none else some triggers }

def adaptResource (c : Context) (r : Resource) : Resource :=
  match r.content with
  | .deploymentConfig version spec =>
    { r with content := .deploymentConfig version (spec.map (adaptSpec c)) }
  | _ => r

def enricher (c : Context) : Enricher :=
  { idle name with
    adapt := fun platform resources =>
      if platform = .openshift then return resources.map (adaptResource c) else return resources
    keys := [containersKey, automaticKey, enrichAllKey, trimImageKey] }

end Manifests.Enricher.ImageTriggers
