import Manifests.Json.Value
import Manifests.Yaml.Node
import Manifests.Yaml.Word

/-!
The JSON value of a YAML document.  Aliases are replaced by what they stand for, within a limit on
how many are followed and on how deep values nest.
-/
namespace Manifests.Yaml

open Number

/-- The tags of the kinds of scalars. -/
def standardTag (kind : String) : String := "tag:yaml.org,2002:" ++ kind

/-- The name of a tag that is not a standard one. -/
def localTag? (tag : Option String) : Option String := do
  match (← tag).toList with
  | '!' :: name => some (String.ofList name)
  | _ => none

/-- An integer that one or two words can carry; only those of one word are values. -/
def integerValue? (n : Int) : Option (Option Json) :=
  if -0x8000000000000000 ≤ n ∧ n < 0x10000000000000000 then some (some (Json.integer n))
  else if -0x80000000000000000000000000000000 ≤ n ∧ n < 0x100000000000000000000000000000000 then
    some none
  else none

/-- A fraction; what is not finite has no JSON form but null. -/
def doubleValue? (word : String) : Option Json :=
  if Word.isNonFinite word then some .null
  else (Word.double? word).map fun x => Json.number (.double x)

/-- The value of a plain word without a tag. -/
def wordValue? (word : String) : Option Json :=
  if word = "" ∨ Word.nullWords.contains word then some .null
  else match Word.bool? word with
    | some b => some (.bool b)
    | none =>
      match (Word.integer? word).bind integerValue? with
      | some value => value
      | none =>
        if Word.isZeroPadded word.toList then some (.string word)
        else some ((doubleValue? word).getD (.string word))

/-- The value of a scalar.  A standard tag says what its text has to denote. -/
def scalarValue? (tag : Option String) (style : Style) (text : String) : Option Json :=
  match tag with
  | none => if style = .plain then wordValue? text else some (.string text)
  | some t =>
    if (localTag? tag).isSome then none
    else if t = standardTag "bool" then (Word.bool? text).map .bool
    else if t = standardTag "int" then ((Word.integer? text).bind integerValue?).join
    else if t = standardTag "float" then doubleValue? text
    else if t = standardTag "null" then if Word.nullWords.contains text then some .null else none
    else some (.string text)

mutual

/-- How many marks a node is written with: one for a scalar or an alias, two for a collection. -/
def Node.size : Node → Nat
  | scalar _ _ _ => 1
  | alias_ _ => 1
  | sequence _ items => 2 + itemsSize items
  | mapping _ entries => 2 + entriesSize entries

def Node.itemsSize : List Node → Nat
  | [] => 0
  | item :: rest => item.size + itemsSize rest

def Node.entriesSize : List (Node × Node) → Nat
  | [] => 0
  | (key, value) :: rest => key.size + value.size + entriesSize rest

end

/-- How many collections may nest. -/
def maxDepth : Nat := 128

/-- How many aliases may be followed in a document with this root. -/
def aliasLimit (root : Node) : Nat := 100 * root.size

/-- A computation that may follow so many more aliases. -/
abbrev Following (α : Type) := StateT Nat Option α

/-- The node itself, or the one that it stands for. -/
def resolve (anchors : Anchors) (node : Node) : Following Node := do
  match node with
  | .alias_ number =>
    match ← get with
    | 0 => failure
    | left + 1 => do
      set left
      match anchors.node? number with
      | some node => return node
      | none => failure
  | node => return node

/-- The key that a node is, which has to be a scalar. -/
def keyText (anchors : Anchors) (node : Node) : Following String := do
  match ← resolve anchors node with
  | .scalar _ _ text => return text
  | _ => failure

/-- The value of a node in which collections nest no deeper than a depth. -/
def valueWithin (anchors : Anchors) : Nat → Node → Following Json
  | 0, node => do
    match ← resolve anchors node with
    | .scalar tag style text => (scalarValue? tag style text).elim failure pure
    | _ => failure
  | depth + 1, node => do
    match ← resolve anchors node with
    | .scalar tag style text => (scalarValue? tag style text).elim failure pure
    | .sequence tag items =>
      if (localTag? tag).isSome then failure
      return .array (← items.mapM (valueWithin anchors depth))
    | .mapping tag entries =>
      if (localTag? tag).isSome then failure
      return .object (← entries.mapM fun (key, value) => do
        let key ← keyText anchors key
        return (key, ← valueWithin anchors depth value))
    | .alias_ _ => failure

/-- The value of a document; without a root it is null. -/
def Tree.value? (t : Tree) : Option Json :=
  match t.root with
  | none => some .null
  | some root => ((valueWithin t.anchors maxDepth root).run (aliasLimit root)).map (·.1)

end Manifests.Yaml
