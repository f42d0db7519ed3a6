import Manifests.Json.Value
import Manifests.SortedMap
import Manifests.Text.Base64
import Manifests.Text.Integer

/-!
The JSON form of the parts of a Kubernetes object.  A field that is missing or null is absent; an
absent optional field is left out again, and an absent required field has the zero of its type.
-/
namespace Manifests

/-- A type whose values are written as JSON and read back from it. -/
class Coded (α : Type) where
  encode : α → Json
  decode : Json → Option α

/-- Opaque data, which manifests hold in base 64. -/
structure Bytes where
  toList : List UInt8
  deriving DecidableEq, Inhabited

/-- The name of a port or its number. -/
inductive IntOrString where
  | int (value : Int32)
  | text (value : String)
  deriving DecidableEq, Inhabited

namespace Coded

variable {α : Type}

instance : Coded String where
  encode := .string
  decode
    | .string s => some s
    | _ => none

instance : Coded Bool where
  encode := .bool
  decode
    | .bool b => some b
    | _ => none

instance : Coded Int32 where
  encode n := Json.integer n.toInt
  decode
    | .number (.integer n) => Text.int32OfInt? n
    | _ => none

instance : Coded Int64 where
  encode n := Json.integer n.toInt
  decode
    | .number (.integer n) => Text.int64OfInt? n
    | _ => none

instance : Coded Bytes where
  encode b := .string (String.ofList (Text.Base64.encode b.toList))
  decode
    | .string s => (Text.Base64.decode? s.toList).map Bytes.mk
    | .null => some ⟨[]⟩
    | _ => none

instance : Coded IntOrString where
  encode
    | .int n => encode n
    | .text s => encode s
  decode
    | .number n => (decode (.number n)).map IntOrString.int
    | .string s => some (.text s)
    | _ => none

instance [Coded α] : Coded (List α) where
  encode l := .array (l.map encode)
  decode
    | .array items => items.mapM decode
    | _ => none

instance [Coded α] : Coded (SortedMap α) where
  encode m := .object (m.toList.map fun e => (e.1, encode e.2))
  decode
    | .object members => do
      let entries ← members.mapM fun (key, value) => (decode value).map (key, ·)
      return SortedMap.ofList entries
    | _ => none

def members? : Json → Option (List (String × Json))
  | .object members => some members
  | _ => none

def find? (members : List (String × Json)) (key : String) : Option Json :=
  (members.find? (·.1 == key)).map (·.2)

/-- A field that is always written. -/
def required [Coded α] (key : String) (value : α) : List (String × Json) := [(key, encode value)]

/-- A field that is written if it is present. -/
def optional [Coded α] (key : String) (value : Option α) : List (String × Json) :=
  match value with
  | some a => [(key, encode a)]
  | none => []

def required? [Coded α] [Inhabited α] (members : List (String × Json)) (key : String) : Option α :=
  match find? members key with
  | none | some .null => some default
  | some value => decode value

def optional? [Coded α] (members : List (String × Json)) (key : String) : Option (Option α) :=
  match find? members key with
  | none | some .null => some none
  | some value => (decode value).map some

end Coded
end Manifests
