import Manifests.Toml.Value

/-!
TOML documents: entries, and sections of further entries under a header each.
-/
namespace Manifests.Toml

open Scan

/-- A header with the entries below it; a doubled one adds to the tables of its name. -/
structure Section where
  doubled : Bool
  path : List String
  name : String
  entries : List (List String × String × Node)

/-- The entries up to the next header. -/
def entries : Nat → Scan (List (List String × String × Node))
  | 0 => failure
  | fuel + 1 => do
    blanks
    match ← next? with
    | none | some '[' => return []
    | some '#' | some '\n' | some '\r' => do
      lineEnd
      entries fuel
    | some _ => do
      let e ← entry (value maxDepth)
      lineEnd
      return e :: (← entries fuel)

def header : Scan (Bool × List String × String) := do
  expect "["
  let doubled ← accept "["
  let (path, name) ← key
  expect (if doubled then "]]" else "]")
  lineEnd
  return (doubled, path, name)

def sections : Nat → Scan (List Section)
  | 0 => failure
  | fuel + 1 => do
    if (← get).isEmpty then return []
    let (doubled, path, name) ← header
    let entries ← entries (fuel + 1)
    return ⟨doubled, path, name, entries⟩ :: (← sections fuel)

def addSection (root : Members) (s : Section) : Option Members :=
  if s.doubled then root.addToTables s.path s.name s.entries
  else root.addTable s.path s.name s.entries

/-- The members of the table that a document is. -/
def ofText? (text : String) : Option Members := do
  let cs := match text.toList with
    | '\ufeff' :: cs => cs
    | cs => cs
  let fuel := cs.length + 1
  let (top, rest) ← (entries fuel).run cs
  let (sections, _) ← (sections fuel).run rest
  sections.foldlM addSection (← Members.addAll [] top)

end Manifests.Toml
