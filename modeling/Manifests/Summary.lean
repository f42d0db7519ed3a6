import Manifests.Resource
import Manifests.Table

/-!
The summary of what was generated: a table of the resources with their containers and replicas, and
the colors and icons that tell the kinds apart.
-/
namespace Manifests

inductive Color where
  | green
  | cyan
  | yellow
  | red
  | darkGrey
  deriving Repr, DecidableEq

def Color.name : Color → String
  | green => "Green"
  | cyan => "Cyan"
  | yellow => "Yellow"
  | red => "Red"
  | darkGrey => "DarkGrey"

def Kind.color : Kind → Color
  | .service => .cyan
  | .secret | .configMap => .yellow
  | .podTemplate => .darkGrey
  | _ => .green

/-- The color of a number of containers; controllers without any stand out. -/
def Kind.containerColor (k : Kind) (containers : Nat) : Color :=
  if !k.isController then .darkGrey else if containers = 0 then .red else .green

namespace Icon

def success : String := "✓"

def warning : String := "⚠"

def none : String := "-"

/-- The icon of a number of containers. -/
def ofContainers (k : Kind) (containers : Nat) : String :=
  if !k.isController then none else if containers = 0 then warning else success

end Icon

/-- A resource as the summary shows it. -/
structure Summary where
  kind : Kind
  name : String
  containers : Nat
  replicas : Option Int32
  deriving Repr, DecidableEq

namespace Summary

def ofResource (r : Resource) : Summary where
  kind := r.kind
  name := r.name?.getD "<unnamed>"
  containers := match r.podSpec? with
    | some spec => spec.containers.length
    | none => 0
  replicas := r.replicas?

def columns : List Table.Column :=
  [⟨"KIND", .left⟩, ⟨"NAME", .left⟩, ⟨"CONTAINERS", .center⟩, ⟨"REPLICAS", .center⟩]

/-- The cells of a row.  Only controllers show how many containers they have. -/
def cells (s : Summary) : List String :=
  let icon := Icon.ofContainers s.kind s.containers
  [s.kind.name, s.name,
    if s.kind.isController then icon ++ " " ++ toString s.containers else icon,
    match s.replicas with
    | some n => Text.int32Text n
    | none => Icon.none]

/-- The table of some resources with a title and a legend. -/
def text (summaries : List Summary) : String :=
  if summaries = [] then "No resources generated"
  else
    "╭─ Generated Resources [" ++ toString summaries.length ++ " resources] ─╮\n" ++
      Table.draw columns (summaries.map cells) ++ "\n" ++
      "Legend: " ++ Icon.success ++ " Containers  " ++ Icon.warning ++ " No containers\n"

end Summary
end Manifests
