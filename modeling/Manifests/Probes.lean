import Manifests.Config.Policy
import Manifests.Error
import Manifests.Object.Container
import Manifests.Text.CommandWords
import Manifests.Text.Url

/-!
Probes from their declarations.  A URL comes before a command and a command before a port, and
only positive numbers of seconds count.
-/
namespace Manifests.Config.ProbeDeclaration

def httpGetAction (url : String) : Except Error HTTPGetAction :=
  match Text.WebAddress.parse? url with
  | none => .error (.config (.probeUrl url))
  | some a => .ok {
      host := some a.host
      path := some a.path
      port := .int (Int32.ofNat a.port)
      scheme := some (Text.upper a.scheme) }

def execAction (line : String) : Except Error ExecAction :=
  match Text.CommandWords.split? line with
  | none => .error (.unbalancedQuotes line)
  | some words => .ok { command := some words }

def portOf (text : String) : IntOrString :=
  match Text.int32? text.toList with
  | some n => .int n
  | none => .text text

/-- What the probe does, without its times. -/
def action? (p : ProbeDeclaration) : Except Error (Option Probe) := do
  match p.getUrl.bind Text.nonBlank?, p.exec.bind Text.nonBlank?, p.tcpPort.bind Text.nonBlank? with
  | some url, _, _ => return some { (default : Probe) with httpGet := some (← httpGetAction url) }
  | none, some line, _ => return some { (default : Probe) with exec := some (← execAction line) }
  | none, none, some port =>
    return some { (default : Probe) with
      tcpSocket := some { (default : TCPSocketAction) with port := portOf port } }
  | none, none, none => return none

def positive (n : Option Int32) : Option Int32 := n.filter fun n => 0 < n.toInt

/-- The probe of a declaration that says what to do. -/
def build (p : ProbeDeclaration) : Except Error (Option Probe) := do
  return (← p.action?).map fun probe => { probe with
    initialDelaySeconds := positive p.initialDelaySeconds
    timeoutSeconds := positive p.timeoutSeconds
    periodSeconds := positive p.periodSeconds }

/-- The probe of a declaration that may be absent. -/
def buildOptional : Option ProbeDeclaration → Except Error (Option Probe)
  | none => .ok none
  | some p => p.build

end Manifests.Config.ProbeDeclaration
