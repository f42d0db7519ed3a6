import Manifests.Enricher
import Manifests.Services

/-!
The enricher that adds a service for the ports of the images, or completes the declared services.
-/
namespace Manifests.Enricher.DefaultService

def name : String := "forge-service"

def nameKey : Key := ⟨"name", none, "Name of the default service"⟩

def headlessKey : Key :=
  ⟨"headless", some "false", "Create a headless service when no ports are exposed"⟩

def exposeKey : Key := ⟨"expose", some "false", "Label the service for exposure"⟩

def typeKey : Key := ⟨"type", none, "Service type such as NodePort or LoadBalancer"⟩

def defaultName (c : Context) : String := c.resourceName name nameKey

def httpPort : Int32 := 80

/-- Puts a number at its place among ascending ones, which it may be among already. -/
def insertPort (port : Int32) : List Int32 → List Int32
  | [] => [port]
  | p :: rest =>
    if port.toInt < p.toInt then port :: p :: rest
    else if port = p then p :: rest
    else p :: insertPort port rest

/-- The port that a container port is published on: the usual web ports are published on the
standard one, unless that is exposed itself. -/
def publishedPort (exposed : List Int32) (port : Int32) : Int32 :=
  if !exposed.contains httpPort && (port = 8080 || port = 9090) then httpPort else port

/-- Ports that follow ones of the given names; only the first port of a name carries it. -/
def declarePorts (exposed : List Int32) (used : List String) :
    List Int32 → List Config.PortDeclaration
  | [] => []
  | port :: rest =>
    let published := publishedPort exposed port
    let name := wellKnownPortName published
    { name := if used.contains name then none else some name
      protocol := some "tcp"
      port := published
      targetPort := some port
      nodePort := none } :: declarePorts exposed (name :: used) rest

/-- The ports of one image, in ascending order of its container ports. -/
def imagePorts (c : Context) (image : Config.Image) :
    Except Error (List Config.PortDeclaration) := do
  let mappings ← image.ports.mapM (PortMapping.parse c.project.properties)
  let exposed := mappings.foldl (fun ports m => insertPort m.containerPort ports) []
  return declarePorts exposed [] exposed

/-- The service that the images call for. -/
def declaration (c : Context) : Except Error Config.ServiceDeclaration := do
  let ports := (← c.images.mapM (imagePorts c)).flatten
  return {
    name := some (defaultName c)
    ports
    headless := ports.isEmpty && c.isOn name headlessKey
    expose := c.isOn name exposeKey
    type := c.text? name typeKey }

def completePort (p : ServicePort) : ServicePort :=
  { p with
    protocol := if (p.protocol.bind Text.nonBlank?).isSome then p.protocol else some "TCP"
    name :=
      if (p.name.bind Text.nonBlank?).isSome then p.name else some (wellKnownPortName p.port) }

/-- A specification with complete ports, or with those of the default one if it has none. -/
def completeSpec (spec fallback : ServiceSpec) : ServiceSpec :=
  match spec.ports with
  | some (p :: ports) => { spec with ports := some ((p :: ports).map completePort) }
  | _ => { spec with ports := fallback.ports }

/-- A declared service with a name, completed if it has the default one. -/
def complete (c : Context) (fallback : Option ServiceSpec) (r : Resource) : Resource :=
  match r.content with
  | .service spec =>
    let named := if r.name?.isNone then r.rename (some (defaultName c)) else r
    match fallback with
    | none => named
    | some fallback =>
      if named.metadata.name = some (defaultName c) then
        let spec := (spec.map (completeSpec · fallback)).getD fallback
        { named with content := .service (some spec) }
      else named
  | _ => r

def serviceSpec? (r : Resource) : Option ServiceSpec :=
  match r.content with
  | .service spec => spec
  | _ => none

/-- The ports of the containers behind a service. -/
def targetPorts (ports : List ServicePort) : List String :=
  ports.filterMap fun p => p.targetPort.map fun
    | .int n => Text.int32Text n
    | .text s => s

def addService (service : Resource) (headless : Bool) (resources : Collection) :
    Logged Collection := do
  match (serviceSpec? service).bind (·.ports) with
  | some ports => do
    Logged.info ("Adding a default Service with ports [" ++
      String.intercalate "," (targetPorts ports) ++ "]")
    return resources ++ [service]
  | none =>
    if headless then do
      Logged.info "Adding a default headless Service"
      return resources ++ [service]
    else return resources

def addMissing (c : Context) (resources : Collection) : Logged Collection := do
  let declared ← Logged.ofExcept (declaration c)
  let service := declared.service?
  if resources.hasKind [.service] then
    return resources.map (complete c (service.bind serviceSpec?))
  match service with
  | none => return resources
  | some service => addService service declared.headless resources

def enricher (c : Context) : Enricher :=
  { idle name with
    addMissing := fun _ resources => addMissing c resources
    keys := [nameKey, headlessKey, exposeKey, typeKey] }

end Manifests.Enricher.DefaultService
