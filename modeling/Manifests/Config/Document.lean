import Manifests.SortedMap
import Manifests.Yaml.Value

/-!
Configuration documents, whatever format they were written in.  Some formats type their scalars
and others leave a plain word to the reader, so each reading function says which scalars it takes.
-/
namespace Manifests.Config

/-- A document.  Plain words and marked texts are scalars that wait for a type, a linked document
is one that has a number elsewhere, and no setting takes an unreadable one. -/
inductive Document where
  | null
  | bool (value : Bool)
  | integer (value : Int)
  | text (value : String)
  | plain (tag : Option String) (word : String)
  | marked (tag : String) (literal : Bool) (value : String)
  | list (items : List Document)
  | record (members : List (Document × Document))
  | linked (number : Nat)
  | unreadable
  deriving Repr, Inhabited

/-- What a format says about the documents written in it: what links lead to, whether a list of so
many items can give the fields of a record that has so many, and what can stand behind a choice
that is written as a record of one. -/
structure Source where
  target? : Nat → Option Document
  fitsFields : Nat → Nat → Bool
  endsChoice : Document → Bool

/-- A computation on the documents of a source that may follow so many more links. -/
abbrev Reading (α : Type) := ReaderT Source (StateT Nat Option) α

namespace Document

/-- The document itself, or the one that it is linked to. -/
def follow : Document → Reading Document
  | linked number => do
    match ← get with
    | 0 => failure
    | left + 1 => do
      set left
      let target ← (← read).target? number
      return target
  | d => return d

/-- Whether nothing is written in the place of a value. -/
def isEmptyWord : Document → Bool
  | plain _ "" => true
  | _ => false

def text? (d : Document) : Reading String := do
  match ← d.follow with
  | text s => return s
  | plain _ s => return s
  | marked _ _ s => return s
  | _ => failure

/-- The word of a scalar that may be read as a kind: a plain one, or a literal one of its tag. -/
def wordFor? (kind : String) : Document → Option String
  | plain _ s => some s
  | marked tag true s => if tag = Yaml.standardTag kind then some s else none
  | _ => none

def bool? (d : Document) : Reading Bool := do
  match ← d.follow with
  | bool b => return b
  | d =>
    let b ← (d.wordFor? "bool").bind Yaml.Word.bool?
    return b

def int32? (d : Document) : Reading Int32 := do
  let n ← match ← d.follow with
    | integer n => pure n
    | d =>
      let n ← (d.wordFor? "int").bind Yaml.Word.integer?
      pure n
  let n ← Text.int32OfInt? n
  return n

/-- The name that a choice among several is given by: a text, a record of one, or a tag of its own
in front of nothing. -/
def choice? (d : Document) : Reading String := do
  match ← d.follow with
  | text s => return s
  | record [(key, value)] => do
    guard ((← read).endsChoice value)
    key.text?
  | plain tag s =>
    match Yaml.localTag? tag with
    | some name => do
      guard (s = "" ∨ Yaml.Word.nullWords.contains s)
      return name
    | none => return s
  | marked tag _ s => do
    guard (Yaml.localTag? (some tag)).isNone
    return s
  | _ => failure

/-- Whether a document stands for nothing in the place of an optional value; none if it should, by
its tag, but does not. -/
def isNothing? : Document → Option Bool
  | null => some true
  | plain none s => some (s = "" ∨ Yaml.Word.nullWords.contains s)
  | plain (some tag) s =>
    if tag = Yaml.standardTag "null" then if Yaml.Word.nullWords.contains s then some true else none
    else some false
  | _ => some false

/-- A value that may be given as nothing. -/
def optional? {α : Type} (value : Document → Reading α) (d : Document) : Reading (Option α) := do
  let d ← d.follow
  let isNothing ← d.isNothing?
  if isNothing then return none else return some (← value d)

def list? {α : Type} (value : Document → Reading α) (d : Document) : Reading (List α) := do
  match ← d.follow with
  | list items => items.mapM value
  | d => if d.isEmptyWord then return [] else failure

/-- A map from texts, in which the last of repeated keys counts. -/
def map? {α : Type} (value : Document → Reading α) (d : Document) : Reading (SortedMap α) := do
  match ← d.follow with
  | record members => do
    let entries ← members.mapM fun (key, v) => do
      let key ← key.text?
      return (key, ← value v)
    return SortedMap.ofList entries
  | d => if d.isEmptyWord then return ∅ else failure

/-- The fields of a record by name.  A known field may not be repeated, unknown ones are ignored,
and a list may give the fields in order. -/
def fields? (names : List String) (d : Document) : Reading (List (String × Document)) := do
  match ← d.follow with
  | record members => do
    let entries ← members.mapM fun (key, value) => do return (← key.text?, value)
    let known := entries.filter fun e => names.contains e.1
    guard (known.map (·.1)).Nodup
    return known
  | list items => do
    guard ((← read).fitsFields items.length names.length)
    return names.zip items
  | d => if d.isEmptyWord then return [] else failure

end Document

/-- Values of a configuration: read from any document and shown as JSON.  A field that is not
given has the default of its type. -/
class Setting (α : Type) extends Inhabited α where
  read? : Document → Reading α
  toJson : α → Json

export Setting (read? toJson)

/-- The setting that a document of a source gives when so many links may be followed. -/
def Source.setting? {α : Type} [Setting α] (source : Source) (links : Nat) (d : Document) :
    Option α :=
  (((read? d).run source).run links).map (·.1)

instance : Setting String where
  default := ""
  read? := Document.text?
  toJson := .string

instance : Setting Bool where
  default := false
  read? := Document.bool?
  toJson := .bool

instance : Setting Int32 where
  default := 0
  read? := Document.int32?
  toJson n := Json.integer n.toInt

instance {α : Type} [Setting α] : Setting (Option α) where
  default := none
  read? := Document.optional? read?
  toJson
    | none => .null
    | some a => toJson a

instance {α : Type} [Setting α] : Setting (List α) where
  default := []
  read? := Document.list? read?
  toJson l := .array (l.map toJson)

instance {α : Type} [Setting α] : Setting (SortedMap α) where
  default := ∅
  read? := Document.map? read?
  toJson m := .object (m.toList.map fun e => (e.1, toJson e.2))

instance : Setting TextSet where
  default := ∅
  read? d := return TextSet.ofList (← Document.list? Document.text? d)
  toJson s := .array (s.members.map .string)

/-- Reads one of the fields, or gives the default of its type. -/
def field? {α : Type} [Setting α] (fields : List (String × Document)) (name : String) :
    Reading α :=
  match fields.find? (·.1 == name) with
  | none => return default
  | some (_, d) => read? d

end Manifests.Config
