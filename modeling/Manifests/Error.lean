import Manifests.Kind

/-!
What can go wrong.  Every constructor is a cause with the data that its message needs; the wording
is in the functions named `message`.
-/
namespace Manifests

/-- Why a file or directory could not be read. -/
inductive ReadFault where
  | notFound
  | notDirectory
  | isDirectory
  | nameTooLong
  | invalidName
  deriving Repr, DecidableEq

def ReadFault.message : ReadFault → String
  | notFound => "No such file or directory (os error 2)"
  | notDirectory => "Not a directory (os error 20)"
  | isDirectory => "Is a directory (os error 21)"
  | nameTooLong => "File name too long (os error 36)"
  | invalidName => "file name contained an unexpected NUL byte"

/-- Why a name is no resource id. -/
inductive NameFault where
  | missing (what : String)
  | upperCase (letter : Char) (index : Nat) (what value : String)
  deriving Repr, DecidableEq

def NameFault.message : NameFault → String
  | missing what => "No " ++ what ++ " is specified!"
  | upperCase letter index what value =>
    "Invalid upper case letter '" ++ letter.toString ++ "' at index " ++ toString index ++
      " for " ++ what ++ " value: " ++ value

/-- Why a port mapping cannot be read. -/
inductive PortFault where
  | format
  | parts (found : Nat)
  | number (token : String)
  deriving Repr, DecidableEq

def PortFault.message : PortFault → String
  | format => "unrecognised format"
  | parts found => "expected at most 3 ':' separated parts, found " ++ toString found
  | number token => "'" ++ token ++ "' is not a valid port number"

inductive ConfigFault where
  | platform (text : String)
  | outputFormat (text : String)
  | probeUrl (url : String)
  | unreadableBuild (path : String) (fault : ReadFault)
  | buildFormat (path : String)
  | unreadableFragment (path : String) (fault : ReadFault)
  | fragmentExtension (file : String)
  | fragmentType (type file : String) (known : List String)
  | fragmentKind (file : String)
  deriving Repr, DecidableEq

def ConfigFault.message : ConfigFault → String
  | platform text => "Invalid platform mode: " ++ text ++ ". Must be one of: kubernetes, openshift"
  | outputFormat text => "Invalid output format: " ++ text ++ ". Must be one of: yaml, json"
  | probeUrl url => "Invalid URL " ++ url ++ " given for HTTP GET readiness check"
  | unreadableBuild path fault =>
    "Failed to read build configuration " ++ path ++ ": " ++ fault.message
  | buildFormat path =>
    "Unsupported configuration format for " ++ path ++ ": expected .toml, .yaml or .yml"
  | unreadableFragment path fault =>
    "Failed to read resource fragment " ++ path ++ ": " ++ fault.message
  | fragmentExtension file =>
    "Resource fragment " ++ file ++ " must have a .yaml, .yml or .json extension"
  | fragmentType type file known =>
    "Unknown type '" ++ type ++ "' for file " ++ file ++ ". Must be one of : " ++
      String.intercalate ", " known
  | fragmentKind file =>
    "No type given as part of the file name (e.g. 'app-rc.yml') and no 'Kind' defined in " ++
      "resource descriptor " ++ file

inductive ResourceFault where
  | noKind
  | unknownKind (kind : String)
  | notMapping (file : String)
  | initContainerConflict (template container : String)
  | noMount (volume : String)
  deriving Repr, DecidableEq

def ResourceFault.message : ResourceFault → String
  | noKind => "Resource has no 'kind'"
  | unknownKind kind => "Unsupported resource kind '" ++ kind ++ "'"
  | notMapping file => "Resource fragment " ++ file ++ " is not a mapping"
  | initContainerConflict template container =>
    "PodSpec " ++ template ++ " already contains a different init container with name " ++
      container ++ " but can not add a second one with the same name. " ++
      "Please choose a different name for the init container"
  | noMount volume => "No matching volume mount found for volume " ++ volume

inductive Error where
  | resourceName (fault : NameFault)
  | port (spec : String) (fault : PortFault)
  | unbalancedQuotes (line : String)
  | unknownEnricher (name : String)
  | unknownInclude (kind name : String)
  | config (fault : ConfigFault)
  | resource (fault : ResourceFault)
  | kindMismatch (base : Kind) (name : String) (override : Kind)
  | load (path : String) (cause : Error)
  | io
  | yaml
  | toml
  | json
  deriving Repr, DecidableEq

def Error.message : Error → String
  | resourceName fault => fault.message
  | port spec fault => "Invalid port mapping '" ++ spec ++ "': " ++ fault.message
  | unbalancedQuotes line => "Unbalanced quotes in " ++ line
  | unknownEnricher name => "Enricher " ++ name ++ " could not be found"
  | unknownInclude kind name =>
    "No " ++ kind ++ " with name '" ++ name ++ "' found to include. " ++
      "Please check spelling and your project dependencies"
  | config fault => "Configuration error: " ++ fault.message
  | resource fault => "Invalid resource: " ++ fault.message
  | kindMismatch base name override =>
    "Merge error: Can not merge " ++ base.name ++ " " ++ name ++ " with a " ++ override.name
  | load path cause => "Failed to load build configuration " ++ path ++ ": " ++ cause.message
  | io => "IO error:"
  | yaml => "YAML parse error:"
  | toml => "TOML parse error:"
  | json => "JSON parse error:"

end Manifests
