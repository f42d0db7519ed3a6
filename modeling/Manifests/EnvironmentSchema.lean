import Manifests.Environment
import Manifests.FileTree
import Manifests.Json.Reader
import Manifests.Json.Writer

/-!
Environment defaults from a schema document, whose properties may each have a default value.
Values that are no texts are written as JSON.
-/
namespace Manifests.EnvironmentSchema

open Json

/-- The given fields of a record: an object that repeats none of them, or an array in order. -/
def fields? (names : List String) : Draft → Option (List (String × Draft))
  | .object members => do
    let members ← members.mapM fun (key, value) => key.map (·, value)
    let known := members.filter fun m => names.contains m.1
    if (known.map (·.1)).Nodup then some known else none
  | .array items => if items.length ≤ names.length then some (names.zip items) else none
  | _ => none

def field? (fields : List (String × Draft)) (name : String) : Option Draft :=
  (fields.find? (·.1 == name)).map (·.2)

/-- The default of a property as the text of a variable; a null default is none. -/
def valueText? : Json → Option String
  | .null => none
  | .string s => some s
  | value => some value.canonical.compactText

/-- How deep a default may nest below the document, its properties and the property. -/
def maxDefaultDepth : Nat := maxDepth - 3

/-- The default of a property, if the property is a record at all. -/
def property? (property : Draft) : Option (Option String) := do
  let f ← fields? ["default"] property
  match field? f "default" with
  | none => some none
  | some value => (value.value? maxDefaultDepth).map valueText?

def properties? : Draft → Option (List (String × Option String))
  | .object members => members.mapM fun (name, value) => do
    let name ← name
    let default ← property? value
    return (name, default)
  | _ => none

/-- The defaults of a schema text. -/
def parse (text : String) : Except Error (SortedMap String) :=
  let found := do
    let f ← fields? ["properties"] (← Draft.parse? text)
    match field? f "properties" with
    | none => some []
    | some value => properties? value
  match found with
  | none => .error .json
  | some entries =>
    let last := (SortedMap.ofList entries).toList
    .ok (SortedMap.ofList (last.filterMap fun (name, value) => value.map (name, ·)))

/-- The defaults of the schema at a path; a missing file provides none. -/
def load (files : FileTree) (path : String) : Except Error (SortedMap String) :=
  if files.isPresent path then
    match files.read path with
    | .ok text => parse text
    | .error _ => .error .io
  else .ok ∅

end Manifests.EnvironmentSchema
