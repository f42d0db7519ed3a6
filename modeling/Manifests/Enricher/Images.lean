import Manifests.Enricher

/-!
The enricher that fills the containers of controllers from the images of the build, by their place.
-/
namespace Manifests.Enricher.Images

def name : String := "forge-image"

def pullPolicyKey : Key := ⟨"pullPolicy", none, "Pull policy for containers without one"⟩

def latestSuffix : List Char := ":latest".toList

/-- The policy for an image: the configured one, or by whether its tag moves. -/
def pullPolicy (c : Context) (image : Config.Image) : String :=
  match c.text? name pullPolicyKey with
  | some policy => policy
  | none =>
    if latestSuffix.isSuffixOf (image.name.getD "").toList then "Always" else "IfNotPresent"

/-- What the log says about a configured variable that the container declares with another value. -/
def keptMessage (name value : String) (present : EnvVar) : String :=
  "Environment variable " ++ name ++ " will not be overridden: trying to set the value " ++ value ++
    ", but its actual value will be " ++
    present.value.getD "retrieved using the downward API"

/-- Adds the configured variables that are not declared. -/
def addVariables (env : List EnvVar) : List (String × String) → Logged (List EnvVar)
  | [] => return env
  | (name, value) :: rest => do
    if ← Environment.admits name value then
      match env.find? (·.name == name) with
      | none => addVariables (env ++ [Environment.variableOf name value]) rest
      | some present =>
        if present.value = some value then addVariables env rest
        else do
          Logged.warn (keptMessage name value present)
          addVariables env rest
    else addVariables env rest

def addNamespace (env : List EnvVar) : List EnvVar :=
  if env.any (·.name == Environment.namespaceName) then env
  else env ++ [Environment.namespaceVariable]

def fillContainer (c : Context) (image : Config.Image) (container : Container) :
    Logged Container := do
  let env ← addVariables (container.env.getD []) c.policy.env.toList
  return { container with
    imagePullPolicy :=
      if (container.imagePullPolicy.bind Text.nonBlank?).isSome then container.imagePullPolicy
      else some (pullPolicy c image)
    image :=
      if (container.image.bind Text.nonBlank?).isSome then container.image
      else image.reference? <|> container.image
    name :=
      if Text.isBlank container.name then image.containerName c.project else container.name
    env := some (addNamespace env) }

/-- Fills containers by their place and adds those that are missing at the end. -/
def fillContainers (c : Context) : List Config.Image → List Container → Logged (List Container)
  | [], containers => return containers
  | image :: images, [] => do
    let container ← fillContainer c image default
    return container :: (← fillContainers c images [])
  | image :: images, container :: containers => do
    let container ← fillContainer c image container
    return container :: (← fillContainers c images containers)

def complete (c : Context) (r : Resource) : Logged Resource :=
  if r.kind.isController then do
    let r := r.ensureTemplate
    let containers ← fillContainers c c.images ((r.podSpec?.map (·.containers)).getD [])
    return r.modifyPodSpec fun s => { s with containers }
  else return r

def enricher (c : Context) : Enricher :=
  { idle name with
    addMissing := fun _ resources =>
      if c.images.isEmpty then return resources else resources.mapM (complete c)
    keys := [pullPolicyKey] }

end Manifests.Enricher.Images
