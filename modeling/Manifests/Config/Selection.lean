import Manifests.Config.Document
import Manifests.Error

/-!
Which of several named processors run and in what order, and what each of them is told.
-/
namespace Manifests.Config

structure Selection where
  /-- If given, only these run, in this order. -/
  includes : Option (List String)
  excludes : TextSet
  config : SortedMap (SortedMap String)
  /-- Further descriptors, inline or as the path of a file. -/
  descriptors : List String
  deriving DecidableEq, Inhabited

instance : Setting Selection where
  read? d := do
    let f ← d.fields? ["includes", "excludes", "config", "descriptors"]
    return {
      includes := ← field? f "includes"
      excludes := ← field? f "excludes"
      config := ← field? f "config"
      descriptors := ← field? f "descriptors" }
  toJson s := .object [
    ("includes", toJson s.includes), ("excludes", toJson s.excludes), ("config", toJson s.config),
    ("descriptors", toJson s.descriptors)]

namespace Selection

variable {α : Type}

def settings (s : Selection) (processor : String) : SortedMap String :=
  (s.config.get? processor).getD ∅

def setting? (s : Selection) (processor key : String) : Option String :=
  (s.settings processor).get? key

def withSetting (s : Selection) (processor key value : String) : Selection :=
  { s with config := s.config.insert processor ((s.settings processor).insert key value) }

/-- What is included runs even if it is excluded too; with includes, nothing else does. -/
def uses (s : Selection) (name : String) : Bool :=
  match s.includes with
  | some includes => includes.contains name
  | none => !s.excludes.contains name

/-- The items in the order of the includes.  Of items with one name the last is meant, and an
include that names no item is refused. -/
def order (s : Selection) (kind : String) (nameOf : α → String) (items : List α) :
    Except Error (List α) :=
  match s.includes with
  | none => .ok items
  | some includes => includes.mapM fun wanted =>
    match items.reverse.find? (nameOf · == wanted) with
    | some item => .ok item
    | none => .error (.unknownInclude kind wanted)

/-- The items that run, in order. -/
def prepare (s : Selection) (kind : String) (nameOf : α → String) (items : List α) :
    Except Error (List α) := do
  return (← s.order kind nameOf items).filter fun item => s.uses (nameOf item)

end Selection
end Manifests.Config
