import Manifests.Json.Writer
import Manifests.Yaml.Written

/-!
JSON values as YAML in block style.  A level is indented by two spaces, except that the items of a
sequence stand right below their key.
-/
namespace Manifests.Yaml

def margin (n : Nat) : List Char := List.replicate n ' '

/-- Ends the line, unless a break already did. -/
def endLine (cs : List Char) : List Char :=
  if endsInBreak cs then cs else cs ++ ['\n']

/-- A value that is no collection, or an empty one. -/
def scalar (indent : Nat) : Json → List Char
  | .string s => writtenText (margin indent) s
  | .array _ => ['[', ']']
  | .object _ => ['\x7b', '\x7d']
  | value => value.compact

mutual

/-- A value in the line of its mark, which is `-`, or `:` on its own. -/
def inMark (indent : Nat) : Json → List Char
  | .array (item :: rest) => ' ' :: items (indent + 2) false (item :: rest)
  | .object (entry :: rest) => ' ' :: entries (indent + 2) false (entry :: rest)
  | value => ' ' :: endLine (scalar (indent + 2) value)

/-- A value behind the colon of a simple key. -/
def behindKey (indent : Nat) : Json → List Char
  | .array (item :: rest) => '\n' :: items indent true (item :: rest)
  | .object (entry :: rest) => '\n' :: entries (indent + 2) true (entry :: rest)
  | value => ' ' :: endLine (scalar (indent + 2) value)

/-- Items at an indentation that the first one may have reached already. -/
def items (indent : Nat) (fresh : Bool) : List Json → List Char
  | [] => []
  | item :: rest =>
    (if fresh then margin indent else []) ++ '-' :: inMark indent item ++ items indent true rest

/-- Entries at an indentation.  A key that is not simple has a mark and lines of its own. -/
def entries (indent : Nat) (fresh : Bool) : List (String × Json) → List Char
  | [] => []
  | (key, value) :: rest =>
    let name := writtenText (margin (indent + 2)) key
    (if fresh then margin indent else []) ++
      (if isSimpleKey key then name ++ ':' :: behindKey indent value
        else '?' :: ' ' :: endLine name ++ margin indent ++ ':' :: inMark indent value) ++
      entries indent true rest

end

/-- A document with a value as its root. -/
def document (value : Json) : String :=
  String.ofList <| match value with
    | .array (item :: rest) => items 0 true (item :: rest)
    | .object (entry :: rest) => entries 0 true (entry :: rest)
    | value => endLine (scalar 2 value)

example :
    document (.object [("a", .array [.string "x", .object []])]) = "a:\n- x\n- \x7b\x7d\n" := by
  decide +kernel

end Manifests.Yaml
