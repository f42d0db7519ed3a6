import Manifests.Error
import Manifests.Object.Container
import Manifests.Text.Blank
import Manifests.Text.IpAddress
import Manifests.Text.LetterCase

/-!
Port mappings `[host ip:][host port:]container port[/protocol]`.  A host part may also name a
property of the project that holds an address or a number.
-/
namespace Manifests

structure PortMapping where
  hostIP : Option String
  hostPort : Option Int32
  containerPort : Int32
  protocol : String
  deriving DecidableEq

namespace PortMapping

/-- What stands before a protocol at the end, and the protocol in lower case. -/
def splitProtocol (cs : List Char) : List Char × String :=
  let tail := (cs.drop (cs.length - 4)).map Char.toLower
  if tail = "/tcp".toList then (cs.take (cs.length - 4), "tcp")
  else if tail = "/udp".toList then (cs.take (cs.length - 4), "udp")
  else (cs, "tcp")

/-- The number of a port, which blanks may surround. -/
def number (spec : String) (token : List Char) : Except Error Int32 :=
  match Text.int32? (Text.trimChars token) with
  | some n => .ok n
  | none => .error (.port spec (.number (String.ofList token)))

/-- The trimmed value of a property. -/
def property? (properties : SortedMap String) (key : List Char) : Option (List Char) :=
  (properties.get? (String.ofList key)).map fun v => Text.trimChars v.toList

/-- The address that a host part is, or that the property of this name holds. -/
def address? (properties : SortedMap String) (host : List Char) : Option String :=
  let host := Text.trimChars host
  if Text.IpAddress.isAddress host then some (String.ofList host)
  else ((property? properties host).filter Text.IpAddress.isAddress).map String.ofList

/-- What one host part binds: a port if it is a number, else an address, else the number that the
property of this name holds.  A part that is none of these binds nothing. -/
def bindHost (properties : SortedMap String) (host : List Char) (m : PortMapping) : PortMapping :=
  match Text.int32? host with
  | some port => { m with hostPort := some port }
  | none =>
    match address? properties host with
    | some address => { m with hostIP := some address }
    | none => { m with hostPort := (property? properties host).bind Text.int32? }

def parse (properties : SortedMap String) (spec : String) : Except Error PortMapping := do
  let cs := Text.trimChars spec.toList
  let spec := String.ofList cs
  let (body, protocol) := splitProtocol cs
  if body.contains '\n' then throw (.port spec .format)
  match (Text.splitAt ':' body).reverse with
  | [port] =>
    return ⟨none, none, ← number spec port, protocol⟩
  | [port, host] =>
    return bindHost properties host ⟨none, none, ← number spec port, protocol⟩
  | [port, hostPort, hostIP] =>
    let containerPort ← number spec port
    let hostPort ← number spec hostPort
    return ⟨address? properties hostIP, some hostPort, containerPort, protocol⟩
  | parts => throw (.port spec (.parts parts.length))

/-- The mapping as a port of a container. -/
def toContainerPort (m : PortMapping) : ContainerPort :=
  { (default : ContainerPort) with
    containerPort := m.containerPort
    hostIP := m.hostIP
    hostPort := m.hostPort
    protocol := some (Text.upper m.protocol) }

def containerPorts (properties : SortedMap String) (specs : List String) :
    Except Error (List ContainerPort) := do
  return (← specs.mapM (parse properties)).map toContainerPort

end PortMapping

/-- The name of a port by its number, where one is customary. -/
def wellKnownPortName (port : Int32) : String :=
  if port = 80 ∨ port = 8080 ∨ port = 9090 then "http"
  else if port = 443 then "https"
  else if port = 8778 then "jolokia"
  else if port = 9779 then "prometheus"
  else "default"

end Manifests
