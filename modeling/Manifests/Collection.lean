import Manifests.Resource.Codec

/-!
Resources in the order in which they are written out, found by kind and name.
-/
namespace Manifests

abbrev Collection := List Resource

namespace Collection

/-- Whether a resource has the kind and the name. -/
def isCalled (kind : Kind) (name : String) (r : Resource) : Bool :=
  r.kind == kind && r.name? == some name

def named? (c : Collection) (kind : Kind) (name : String) : Option Resource :=
  c.find? (isCalled kind name)

/-- The index of the first resource of the kind and name. -/
def position? (c : Collection) (kind : Kind) (name : String) : Option Nat :=
  c.findIdx? (isCalled kind name)

def hasNamed (c : Collection) (kind : Kind) (name : String) : Bool := (c.named? kind name).isSome

def hasKind (c : Collection) (kinds : List Kind) : Bool := c.any fun r => kinds.contains r.kind

def ofKind (c : Collection) (kind : Kind) : Collection := c.filter fun r => r.kind == kind

/-- Puts a resource in the place of the one at an index, if there is one. -/
def replace (c : Collection) (index : Nat) (r : Resource) : Collection := c.set index r

/-- Gives every resource of a kind the same name. -/
def renameAll (c : Collection) (kind : Kind) (name : Option String) : Collection :=
  c.map fun r => if r.kind = kind then r.rename name else r

/-- The collection as a list manifest. -/
def toJson (c : Collection) : Json :=
  .object [("apiVersion", .string "v1"), ("kind", .string "List"),
    ("items", .array (c.map Resource.toJson))]

end Collection
end Manifests
