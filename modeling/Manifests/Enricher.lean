import Manifests.Blueprint
import Manifests.Collection

/-!
Enrichers: named steps that contribute metadata and complete a collection of resources.  What an
enricher is told comes from the selection, else from a property of the project, else from the
default of the key.
-/
namespace Manifests

/-- A setting of an enricher. -/
structure Enricher.Key where
  name : String
  fallback : Option String
  description : String
  deriving Repr, DecidableEq

/-- Everything that enrichers look at. -/
structure Enricher.Context where
  project : Config.Project
  images : List Config.Image
  policy : Config.Policy
  selection : Config.Selection
  envDefaults : Environment.Provider

/-- A step that adds what is missing, contributes metadata by kind, and adapts what is there. -/
structure Enricher where
  name : String
  labels : Kind → SortedMap String
  annotations : Kind → SortedMap String
  selector : Kind → SortedMap String
  addMissing : Config.Platform → Collection → Logged Collection
  adapt : Config.Platform → Collection → Logged Collection
  keys : List Enricher.Key

/-- A way to make the enricher of a name for a build. -/
structure Enricher.Factory where
  name : String
  make : Enricher.Context → Enricher
  name_make : ∀ c, (make c).name = name

namespace Enricher

/-- The enricher that does nothing. -/
def idle (name : String) : Enricher where
  name := name
  labels _ := ∅
  annotations _ := ∅
  selector _ := ∅
  addMissing _ c := pure c
  adapt _ c := pure c
  keys := []

namespace Context

def blueprint (c : Context) : Blueprint := ⟨c.project, c.policy, c.envDefaults⟩

/-- The property of the project that holds a setting. -/
def propertyName (enricher key : String) : String := "forge.enricher." ++ enricher ++ "." ++ key

/-- The value of a setting with the given default. -/
def lookup? (c : Context) (enricher key : String) (fallback : Option String) : Option String :=
  c.selection.setting? enricher key <|> c.project.property? (propertyName enricher key) <|> fallback

def text? (c : Context) (enricher : String) (key : Key) : Option String :=
  c.lookup? enricher key.name key.fallback

/-- The value of a setting with a default that replaces the one of the key. -/
def textOr (c : Context) (enricher : String) (key : Key) (fallback : String) : String :=
  (c.lookup? enricher key.name (some fallback)).getD fallback

/-- Whether a setting is switched on. -/
def isOn (c : Context) (enricher : String) (key : Key) : Bool :=
  match c.text? enricher key with
  | some value => Text.sameAsciiText (Text.trim value) "true"
  | none => false

/-- The name that a setting gives, unless it is blank; else the one of the project. -/
def resourceName (c : Context) (enricher : String) (key : Key) : String :=
  ((c.text? enricher key).filter (!Text.isBlank ·)).getD c.project.defaultResourceName

end Context
end Enricher

/-- Changes the pod template, where there is one, by a step that may fail. -/
def Resource.adaptTemplate (f : PodTemplateSpec → Logged PodTemplateSpec) (r : Resource) :
    Logged Resource :=
  match r.template? with
  | none => return r
  | some t => do
    let t ← f t
    return r.modifyTemplate fun _ => t

/-- Adds the entries whose keys an optional map lacks. -/
def fillEntries (base : Option (SortedMap String)) (more : SortedMap String) :
    Option (SortedMap String) :=
  some ((base.getD ∅).fill more)

end Manifests
