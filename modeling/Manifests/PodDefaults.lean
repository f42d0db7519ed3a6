import Manifests.KeyedList
import Manifests.Object.Pod
import Manifests.Text.Blank

/-!
Filling the gaps of a pod specification from a default one.  What is present is never replaced.
-/
namespace Manifests

/-- A text that counts as missing while it is blank. -/
def fillText (value fallback : Option String) : Option String :=
  if (value.bind Text.nonBlank?).isSome then value else fallback

/-- Whether two ports can not stand in one container. -/
def ContainerPort.clashes (p q : ContainerPort) : Bool :=
  p.containerPort == q.containerPort || (p.name.isSome && p.name == q.name)

/-- Adds the ports that clash with none of those before them. -/
def addPorts (base more : List ContainerPort) : List ContainerPort :=
  more.foldl (fun ports p => if ports.any (·.clashes p) then ports else ports ++ [p]) base

/-- The container with its gaps filled; lists get the items whose key they lack. -/
def Container.fill (c fallback : Container) : Container :=
  { c with
    imagePullPolicy := fillText c.imagePullPolicy fallback.imagePullPolicy
    image := fillText c.image fallback.image
    name := if Text.isBlank c.name then fallback.name else c.name
    env := KeyedList.merge? (KeyedList.addMissing (·.name)) c.env fallback.env
    ports := KeyedList.merge? addPorts c.ports fallback.ports
    volumeMounts :=
      KeyedList.merge? (KeyedList.addMissing (·.mountPath)) c.volumeMounts fallback.volumeMounts
    readinessProbe := c.readinessProbe <|> fallback.readinessProbe
    livenessProbe := c.livenessProbe <|> fallback.livenessProbe
    securityContext := c.securityContext <|> fallback.securityContext }

/-- Fills containers by their place and adds those that are missing at the end. -/
def fillContainers : List Container → List Container → List Container
  | containers, [] => containers
  | [], fallback :: rest => Container.fill default fallback :: fillContainers [] rest
  | c :: containers, fallback :: rest => c.fill fallback :: fillContainers containers rest

/-- The containers with a first one that is named, in the absence of default containers. -/
def nameFirst (name : String) : List Container → List Container
  | c :: rest => (if Text.isBlank c.name then { c with name } else c) :: rest
  | [] => []

/-- The pod specification with its gaps filled from `fallback`; `name` is for a container that
neither of them names. -/
def PodSpec.fill (s fallback : PodSpec) (name : String) : PodSpec :=
  let containers :=
    if fallback.containers.isEmpty then nameFirst name s.containers
    else if s.containers.isEmpty then fallback.containers
    else fillContainers s.containers fallback.containers
  { s with
    containers
    serviceAccountName := s.serviceAccountName <|> fallback.serviceAccountName
    volumes := KeyedList.merge? (KeyedList.addMissing (·.name)) s.volumes fallback.volumes }

end Manifests
