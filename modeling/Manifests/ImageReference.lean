import Manifests.Text.Split

/-!
Image references `[registry/][user/]name[:tag]`.  The tag follows the last colon unless a slash
comes later, and the first segment is a registry if it looks like a host.
-/
namespace Manifests

structure ImageReference where
  registry : Option String
  repository : String
  tag : Option String
  deriving Repr, DecidableEq

namespace ImageReference

/-- Whether a segment looks like a host: it has a dot or a colon, or is the local host. -/
def isRegistry (segment : List Char) : Bool :=
  segment.contains '.' || segment.contains ':' || segment == "localhost".toList

/-- The reference without its tag, and the tag. -/
def splitTag (cs : List Char) : List Char × Option (List Char) :=
  match Text.cutLast? ':' cs with
  | some (before, after) => if after.contains '/' then (cs, none) else (before, some after)
  | none => (cs, none)

/-- The registry, if the reference starts with one, and the rest. -/
def splitRegistry (cs : List Char) : Option (List Char) × List Char :=
  match Text.cutFirst? '/' cs with
  | some (first, rest) => if isRegistry first then (some first, rest) else (none, cs)
  | none => (none, cs)

def parse (s : String) : ImageReference :=
  let (rest, tag) := splitTag s.toList
  let (registry, repository) := splitRegistry rest
  ⟨registry.map String.ofList, String.ofList repository, tag.map String.ofList⟩

/-- The last segment of the repository. -/
def simpleName (r : ImageReference) : String :=
  match Text.cutLast? '/' r.repository.toList with
  | some (_, name) => String.ofList name
  | none => r.repository

/-- The segment in front of the simple name. -/
def user? (r : ImageReference) : Option String :=
  match Text.cutLast? '/' r.repository.toList with
  | none => none
  | some (before, _) =>
    match Text.cutLast? '/' before with
    | some (_, user) => some (String.ofList user)
    | none => some (String.ofList before)

def fullName (r : ImageReference) : String :=
  let base := match r.registry with
    | some registry => registry ++ "/" ++ r.repository
    | none => r.repository
  match r.tag with
  | some tag => base ++ ":" ++ tag
  | none => base

example : parse "docker.io/acme/shop:1" = ⟨some "docker.io", "acme/shop", some "1"⟩ := by
  decide +kernel
example : parse "host:5000/shop" = ⟨some "host:5000", "shop", none⟩ := by decide +kernel

end ImageReference
end Manifests
