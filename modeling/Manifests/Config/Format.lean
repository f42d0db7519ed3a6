import Manifests.Config.Document
import Manifests.Error
import Manifests.Json.Reader
import Manifests.Text.LetterCase
import Manifests.Toml.Tree

/-!
The formats that a configuration document may have, and the documents that their texts hold.
-/
namespace Manifests.Config

namespace Document

mutual

/-- A JSON value as a document. -/
def ofJson : Json → Document
  | .null => null
  | .bool b => bool b
  | .number (.integer n) => integer n
  | .number (.double _) => unreadable
  | .string s => text s
  | .array items => list (ofItems items)
  | .object members => record (ofMembers members)

def ofItems : List Json → List Document
  | [] => []
  | item :: rest => ofJson item :: ofItems rest

def ofMembers : List (String × Json) → List (Document × Document)
  | [] => []
  | (key, value) :: rest => (text key, ofJson value) :: ofMembers rest

end

mutual

/-- A JSON draft as a document.  A text without a value and a number that is no integer of a word
can not be read. -/
def ofDraft : Json.Draft → Document
  | .null => null
  | .bool b => bool b
  | .number l =>
    match l.number? with
    | some (.integer n) => integer n
    | _ => unreadable
  | .string s => ofKey s
  | .array items => list (ofDrafts items)
  | .object members => record (ofEntries members)

def ofKey : Option String → Document
  | some s => text s
  | none => unreadable

def ofDrafts : List Json.Draft → List Document
  | [] => []
  | item :: rest => ofDraft item :: ofDrafts rest

def ofEntries : List (Option String × Json.Draft) → List (Document × Document)
  | [] => []
  | (key, value) :: rest => (ofKey key, ofDraft value) :: ofEntries rest

end

mutual

/-- A YAML node as a document, in which aliases are links. -/
def ofNode : Yaml.Node → Document
  | .scalar tag .plain word => plain tag word
  | .scalar none _ s => text s
  | .scalar (some tag) style s => marked tag (style = .literal) s
  | .sequence _ items => list (ofNodes items)
  | .mapping _ entries => record (ofPairs entries)
  | .alias_ number => linked number

def ofNodes : List Yaml.Node → List Document
  | [] => []
  | item :: rest => ofNode item :: ofNodes rest

def ofPairs : List (Yaml.Node × Yaml.Node) → List (Document × Document)
  | [] => []
  | (key, value) :: rest => (ofNode key, ofNode value) :: ofPairs rest

end

mutual

/-- A TOML value as a document.  A date is a record with one member of a reserved name. -/
def ofTomlNode : Toml.Node → Document
  | .text s => text s
  | .integer n => integer n
  | .fraction => unreadable
  | .bool b => bool b
  | .moment s => record [(text "$__toml_private_datetime", text s)]
  | .list items => list (ofTomlItems items)
  | .closed members => record (ofTomlMembers members)
  | .table _ members => record (ofTomlMembers members)
  | .tables items => list (ofTomlTables items)

def ofTomlItems : List Toml.Node → List Document
  | [] => []
  | item :: rest => ofTomlNode item :: ofTomlItems rest

def ofTomlMembers : List (String × Toml.Node) → List (Document × Document)
  | [] => []
  | (key, value) :: rest => (text key, ofTomlNode value) :: ofTomlMembers rest

def ofTomlTables : List (List (String × Toml.Node)) → List Document
  | [] => []
  | members :: rest => record (ofTomlMembers members) :: ofTomlTables rest

end

end Document

namespace Source

/-- JSON: a list may give a record as long as it has no item too many, and null ends a choice. -/
def json : Source where
  target? _ := none
  fitsFields items fields := items ≤ fields
  endsChoice
    | .null => true
    | _ => false

/-- TOML: items of a list beyond the fields of a record do not count, and what holds nothing ends
a choice. -/
def toml : Source where
  target? _ := none
  fitsFields _ _ := true
  endsChoice
    | .record [] | .list [] => true
    | _ => false

/-- YAML: a list is no record, and a choice no record either. -/
def yaml (anchors : Yaml.Anchors) : Source where
  target? number := (anchors.node? number).map Document.ofNode
  fitsFields _ _ := false
  endsChoice _ := false

end Source

inductive Format where
  | toml
  | yaml
  | json
  deriving Repr, DecidableEq

/-- The setting that a JSON value gives. -/
def ofJson? {α : Type} [Setting α] (value : Json) : Option α :=
  Source.json.setting? 0 (Document.ofJson value)

/-- The setting that a YAML document gives; an empty one is an empty word. -/
def ofTree? {α : Type} [Setting α] (t : Yaml.Tree) : Option α :=
  match t.root with
  | none => (Source.yaml t.anchors).setting? 0 (.plain none "")
  | some root => (Source.yaml t.anchors).setting? (Yaml.aliasLimit root) (Document.ofNode root)

namespace Format

/-- The value of a text in a format, as far as it is a setting of that type. -/
def read {α : Type} [Setting α] (format : Format) (s : String) : Except Error α :=
  let (found, fault) : Option α × Error := match format with
    | toml =>
      ((Toml.ofText? s).bind fun m =>
        Source.toml.setting? 0 (.record (Document.ofTomlMembers m)), .toml)
    | yaml => ((Yaml.Tree.ofText? s).bind ofTree?, .yaml)
    | json => ((Json.Draft.parse? s).bind fun d => Source.json.setting? 0 (.ofDraft d), .json)
  match found with
  | some a => .ok a
  | none => .error fault

/-- The format of a file with this extension, in any letter case. -/
def ofExtension? (extension : String) : Option Format :=
  match Text.lower extension with
  | "toml" => some toml
  | "yaml" | "yml" => some yaml
  | _ => none

end Format
end Manifests.Config
