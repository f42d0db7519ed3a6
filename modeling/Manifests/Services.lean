import Manifests.Config.Policy
import Manifests.Resource
import Manifests.Text.LetterCase

/-!
Services from the service declarations of a policy.
-/
namespace Manifests.Config

def prometheusPort : Int32 := 9779
def prometheusPortName : String := "prometheus"
def scrapePortKey : String := "prometheus.io/port"
def scrapeKey : String := "prometheus.io/scrape"
def exposeLabel : String := "expose"
def noClusterIP : String := "None"

def defaultProtocol : String := "TCP"

def PortDeclaration.isPrometheus (p : PortDeclaration) : Bool :=
  p.port = prometheusPort || p.name = some prometheusPortName

def PortDeclaration.toServicePort (p : PortDeclaration) : ServicePort :=
  { (default : ServicePort) with
    name := p.name
    port := p.port
    protocol := some (Text.upper ((p.protocol.bind Text.nonBlank?).getD defaultProtocol))
    targetPort := p.targetPort.map IntOrString.int
    nodePort := p.nodePort }

namespace ServiceDeclaration

/-- A service that exposes metrics says where to scrape them. -/
def annotations? (s : ServiceDeclaration) : Option (SortedMap String) :=
  (s.ports.find? PortDeclaration.isPrometheus).map fun p =>
    SortedMap.ofList [(scrapePortKey, Text.int32Text p.port),
      (scrapeKey, "true")]

def labels? (s : ServiceDeclaration) : Option (SortedMap String) :=
  if s.expose then some (SortedMap.ofList [(exposeLabel, "true")]) else none

/-- The service of a declaration that has ports or is headless. -/
def service? (s : ServiceDeclaration) : Option Resource :=
  if s.ports.isEmpty && !s.headless then none
  else some {
    metadata := { (default : ObjectMeta) with
      name := s.name, labels := s.labels?, annotations := s.annotations? }
    content := .service (some { (default : ServiceSpec) with
      clusterIP := if s.headless then some noClusterIP else none
      type := s.type.bind Text.nonBlank?
      ports :=
        if s.ports.isEmpty then none else some (s.ports.map PortDeclaration.toServicePort) }) }

end ServiceDeclaration

def services (declarations : List ServiceDeclaration) : List Resource :=
  declarations.filterMap ServiceDeclaration.service?

end Manifests.Config
