import Manifests.Resource.Codec
import Manifests.Text.LetterCase
import Manifests.Text.Split

/-!
Fragments: partial manifests that their file names complete.  A file `<name>-<type>.<extension>`
gives the kind by a short type, and the name of a resource that has none.
-/
namespace Manifests.Fragment

/-- The types that a file name can end in. -/
def types : List (String × Kind) :=
  [("svc", .service), ("rc", .replicationController), ("rs", .replicaSet),
    ("deployment", .deployment), ("dc", .deploymentConfig), ("statefulset", .statefulSet),
    ("ds", .daemonSet), ("daemonset", .daemonSet), ("job", .job), ("secret", .secret),
    ("cm", .configMap), ("configmap", .configMap)]

/-- The kind of a type in any letter case. -/
def kindOfType? (type : String) : Option Kind :=
  (types.find? (·.1 == Text.lower type)).map (·.2)

/-- Extensions are compared by letters; the long s is an s too. -/
def foldLetter (c : Char) : Char := if c = 'ſ' then 's' else c.toLower

/-- What stands before a dot and the extension at the end of a file name. -/
def stemBefore? (file : List Char) (extension : String) : Option (List Char) :=
  let ending := '.' :: extension.toList
  let front := file.length - ending.length
  if (file.drop front).map foldLetter = ending then some (file.take front) else none

/-- A file name in parts; the name is absent rather than empty. -/
structure FileName where
  name : Option String
  type : Option String
  deriving Repr, DecidableEq

/-- The parts of a file name with a known extension.  The type is what follows the last hyphen,
and the name in front of it has to be a single line. -/
def FileName.parse? (file : String) : Option FileName := do
  let stem ← ["yaml", "yml", "json"].findSome? (stemBefore? file.toList)
  let (name, type) := match Text.cutLast? '-' stem with
    | some (name, c :: type) => (name, some (String.ofList (c :: type)))
    | _ => (stem, none)
  if name.contains '\n' then none
  else some ⟨if name = [] then none else some (String.ofList name), type⟩

/-- The name and kind that a file name gives to a fragment that may declare a kind itself.  A file
name that is nothing but a type gives no name, and behind an unknown type the whole stem does. -/
def identify (file : String) (parts : FileName) (declared : Option String) :
    Except Error (Option String × Option Kind) :=
  match parts.type with
  | some type =>
    match kindOfType? type, declared with
    | some kind, _ => .ok (parts.name, some kind)
    | none, some _ =>
      .ok ((Text.cutLast? '.' file.toList).map fun (stem, _) => String.ofList stem, none)
    | none, none => .error (.config (.fragmentType type file (types.map (·.1))))
  | none =>
    match parts.name.bind kindOfType? with
    | some kind => .ok (none, some kind)
    | none => .ok (parts.name, none)

def textOf? : Json → Option String
  | .string s => some s
  | _ => none

/-- The members with one more, unless there is one of the key. -/
def withDefault (members : List (String × Json)) (key : String) (value : Json) :
    List (String × Json) :=
  if (Json.lookup? members key).isSome then members else Json.setMember members key value

/-- Metadata in which a name that is missing or blank is replaced. -/
def named (name : String) : Json → Json
  | .object members =>
    match ((Json.lookup? members "name").bind textOf?).filter (!Text.isBlank ·) with
    | some _ => .object members
    | none => .object (Json.setMember members "name" (.string name))
  | other => other

/-- The members of a fragment with kind, version and name filled in. -/
def complete (members : List (String × Json)) (kind name : String) : List (String × Json) :=
  let members := match Kind.ofName? kind with
    | some known => withDefault members "apiVersion" (.string known.apiVersion)
    | none => members
  let members := Json.setMember members "kind" (.string kind)
  let metadata := (Json.lookup? members "metadata").getD (.object [])
  Json.setMember members "metadata" (named name metadata)

/-- The resource of the value that a file holds. -/
def toResource (file : String) (value : Json) (defaultName : String) : Except Error Resource := do
  let some parts := FileName.parse? file | throw (.config (.fragmentExtension file))
  let members ← match value with
    | .object members => pure members
    | .null => pure []
    | _ => throw (.resource (.notMapping file))
  let declared := (Json.lookup? members "kind").bind textOf?
  let (name, kind) ← identify file parts declared
  let some kind := declared <|> kind.map Kind.name | throw (.config (.fragmentKind file))
  Resource.ofJson (Json.object (complete members kind (name.getD defaultName))).canonical

example : FileName.parse? "web-api-svc.yml" = some ⟨some "web-api", some "svc"⟩ := by
  decide +kernel
example : FileName.parse? "web-.yml" = some ⟨some "web-", none⟩ := by decide +kernel
example : FileName.parse? "web-svc.txt" = none := by decide +kernel

end Manifests.Fragment
