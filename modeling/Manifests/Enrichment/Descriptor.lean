import Manifests.Enricher.Standard
import Manifests.FileTree
import Manifests.Text.Integer

/-!
Descriptors list enrichers by line.  `name` or `name,order` adds one, `!name` removes one that was
added before, and lower orders run first.
-/
namespace Manifests.Descriptor

structure Entry where
  name : String
  order : Int
  deriving Repr, DecidableEq

/-- The entries read so far, in reading order, and the order of the next entry without one. -/
structure Reading where
  entries : List Entry
  nextOrder : Int

def firstOrder : Int := 100

def start : Reading := ⟨[], firstOrder⟩

def Reading.remove (r : Reading) (name : String) : Reading :=
  { r with entries := r.entries.filter (·.name != name) }

/-- Adds an entry behind the others; an earlier one of its name is dropped. -/
def Reading.add (r : Reading) (name : String) (order : Option Int32) : Reading :=
  let rest := (r.remove name).entries
  match order with
  | some order => { r with entries := rest ++ [⟨name, order.toInt⟩] }
  | none => ⟨rest ++ [⟨name, r.nextOrder⟩], r.nextOrder + 1⟩

/-- The name in front of the first comma, and the order behind it if that is a number. -/
def parts (line : List Char) : List Char × Option Int32 :=
  match Text.cutFirst? ',' line with
  | some (head, order) => (Text.trimChars head, Text.int32? (Text.trimChars order))
  | none => (Text.trimChars line, none)

/-- Reads one line; blank ones and comments say nothing. -/
def Reading.line (r : Reading) (line : List Char) : Reading :=
  match Text.trimChars line with
  | [] => r
  | '#' :: _ => r
  | line =>
    match parts line with
    | ('!' :: name, _) => r.remove (String.ofList (Text.trimChars name))
    | (name, order) => r.add (String.ofList name) order

/-- The entries of several texts by ascending order, those of equal order as they were read. -/
def parse (sources : List String) : List Entry :=
  let lines := sources.flatMap fun s => Text.lines s.toList
  let reading := lines.foldl Reading.line start
  reading.entries.mergeSort fun a b => a.order ≤ b.order

/-- The descriptor of the standard enrichers. -/
def standard : String :=
  "# Default enrichers\n" ++ String.join (StandardEnricher.all.map fun e => e.name ++ "\n")

/-- The text of a further source: the content of the file that it names, or itself. -/
def sourceText (files : FileTree) (source : String) : Except Error String :=
  let path := Text.trim source
  if !source.contains '\n' && files.isFile path then
    match files.read path with
    | .ok text => .ok text
    | .error _ => .error .io
  else .ok source

/-- The standard descriptor and the further ones. -/
def sources (files : FileTree) (more : List String) : Except Error (List String) := do
  return standard :: (← more.mapM (sourceText files))

/-- The registered factories of entries, in order. -/
def factories (registry : List Enricher.Factory) (entries : List Entry) :
    Except Error (List Enricher.Factory) :=
  entries.mapM fun entry =>
    match registry.find? (·.name == entry.name) with
    | some factory => .ok factory
    | none => .error (.unknownEnricher entry.name)

end Manifests.Descriptor
