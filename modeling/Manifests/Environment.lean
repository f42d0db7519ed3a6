import Manifests.Logged
import Manifests.Object.Container
import Manifests.SortedMap
import Manifests.Text.Blank

/-!
Environment variables of a container: the configured ones, defaults from elsewhere that do not
replace them, and the namespace that the pod runs in.
-/
namespace Manifests.Environment

/-- Where further defaults come from: nowhere, or the outcome of asking for them. -/
abbrev Provider := Option (Except Error (SortedMap String))

def namespaceName : String := "KUBERNETES_NAMESPACE"

/-- The variable that holds the namespace of the pod. -/
def namespaceVariable : EnvVar where
  name := namespaceName
  value := none
  valueFrom := some { (default : EnvVarSource) with
    fieldRef := some { (default : ObjectFieldSelector) with fieldPath := "metadata.namespace" } }

def variableOf (name value : String) : EnvVar :=
  { (default : EnvVar) with name, value := some value }

/-- Whether a name can be configured; the log says why it can not. -/
def admits (name value : String) : Logged Bool :=
  if Text.isBlank name then do
    Logged.warn ("Dropping environment variable with blank name (value: " ++ value ++ ")")
    return false
  else if name = namespaceName then do
    Logged.warn
      ("Environment variable " ++ namespaceName ++ " is injected and can not be configured")
    return false
  else return true

/-- The variables of the entries that can be configured, in order. -/
def envVars : List (String × String) → Logged (List EnvVar)
  | [] => return []
  | (name, value) :: rest => do
    let admitted ← admits name value
    let others ← envVars rest
    return if admitted then variableOf name value :: others else others

/-- Configured and provided variables in ascending order of their names, then the namespace. -/
def build (configured : SortedMap String) (provider : Provider) : Logged (List EnvVar) := do
  let provided ← match provider with
    | none => pure ∅
    | some outcome => Logged.ofExcept outcome
  let vars ← envVars (configured.fill provided).toList
  return vars ++ [namespaceVariable]

end Manifests.Environment
