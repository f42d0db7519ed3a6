import Manifests.Text.Hexadecimal
import Manifests.Yaml.Cursor

/-!
Anchors, tags and directives of a YAML text.
-/
namespace Manifests.Yaml

/-- The name of an anchor or alias, behind its mark. -/
def anchorName? (c : Cursor) : Option (String × Cursor) :=
  let (name, c) := c.span isNameChar
  let ends := match c.rest with
    | [] => true
    | b :: _ => atSpace c.rest || "?:,]\x7d%@`".toList.contains b
  if name = [] || !ends then none else some (String.ofList name, c)

namespace Tag

/-- The characters of a tag; in angle brackets and directives also commas and brackets. -/
def isUriChar (verbatim : Bool) (c : Char) : Bool :=
  isNameChar c || ";/?:@&=+$.%!~*'()".toList.contains c ||
    (verbatim && (c = ',' || c = '[' || c = ']'))

/-- The octet that an escape stands for. -/
def octet? : List Char → Option (Nat × List Char)
  | '%' :: a :: b :: rest => do
    let high ← Text.hexDigit? a
    let low ← Text.hexDigit? b
    return (high * 16 + low, rest)
  | _ => none

/-- How many octets a character takes and what its first octet contributes. -/
def leading? (octet : Nat) : Option (Nat × Nat) :=
  if octet < 0x80 then some (0, octet)
  else if 0xC0 ≤ octet ∧ octet < 0xE0 then some (1, octet - 0xC0)
  else if 0xE0 ≤ octet ∧ octet < 0xF0 then some (2, octet - 0xE0)
  else if 0xF0 ≤ octet ∧ octet < 0xF8 then some (3, octet - 0xF0)
  else none

/-- Reads `n` further octets of a character. -/
def trailing? (value : Nat) : Nat → List Char → Option (Nat × List Char)
  | 0, cs => some (value, cs)
  | n + 1, cs => do
    let (octet, rest) ← octet? cs
    guard (0x80 ≤ octet ∧ octet < 0xC0)
    trailing? (value * 64 + (octet - 0x80)) n rest

/-- The text of a tag with its escapes undone. -/
def unescape? : Nat → List Char → Option (List Char)
  | 0, _ => none
  | _, [] => some []
  | fuel + 1, '%' :: rest => do
    let (octet, rest) ← octet? ('%' :: rest)
    let (n, value) ← leading? octet
    let (value, rest) ← trailing? value n rest
    return Char.ofNat value :: (← unescape? fuel rest)
  | fuel + 1, c :: rest => (unescape? fuel rest).map (c :: ·)

/-- A run of tag characters, which may be empty. -/
def uri? (verbatim : Bool) (c : Cursor) : Option (List Char × Cursor) := do
  let (run, c) := c.span (isUriChar verbatim)
  return (← unescape? (run.length + 1) run, c)

/-- A handle: an exclamation mark, a name, and maybe a second mark. -/
def handle? (c : Cursor) : Option (List Char × Cursor) :=
  match c.rest with
  | '!' :: _ =>
    let (name, c) := (c.advance 1).span isNameChar
    if c.rest.head? = some '!' then some ('!' :: name ++ ['!'], c.advance 1)
    else some ('!' :: name, c)
  | _ => none

/-- Handle and suffix of a tag.  A verbatim tag has the empty handle, and so has the lone mark. -/
def parts? (c : Cursor) : Option (List Char × List Char × Cursor) :=
  match c.rest with
  | '!' :: '<' :: _ => do
    let (uri, c) ← uri? true (c.advance 2)
    guard (uri ≠ [] ∧ c.rest.head? = some '>')
    return ([], uri, c.advance 1)
  | _ => do
    let (handle, c) ← handle? c
    let (suffix, c) ← uri? false c
    if 1 < handle.length ∧ handle.getLast? = some '!' then
      guard (suffix ≠ [])
      return (handle, suffix, c)
    match handle.tail ++ suffix with
    | [] => return ([], ['!'], c)
    | suffix => return (['!'], suffix, c)

/-- A tag, which has to stand before white space or, inside of brackets, before a comma. -/
def read? (flow : Bool) (c : Cursor) : Option (String × String × Cursor) := do
  let (handle, suffix, c) ← parts? c
  guard (atSpace c.rest ∨ (flow ∧ c.rest.head? = some ','))
  return (String.ofList handle, String.ofList suffix, c)

end Tag

inductive Directive where
  | version (major minor : Nat)
  | tag (handle uri : String)
  deriving Repr, DecidableEq

namespace Directive

/-- A number of at most nine digits. -/
def number? (c : Cursor) : Option (Nat × Cursor) := do
  let (digits, c) := c.span Char.isDigit
  guard (0 < digits.length ∧ digits.length ≤ 9)
  return (digits.foldl (fun n d => n * 10 + (d.toNat - 48)) 0, c)

def version? (c : Cursor) : Option (Directive × Cursor) := do
  let (major, c) ← number? (c.skip isBlank)
  guard (c.rest.head? = some '.')
  let (minor, c) ← number? (c.advance 1)
  return (version major minor, c)

def tag? (c : Cursor) : Option (Directive × Cursor) := do
  let (handle, c) ← Tag.handle? (c.skip isBlank)
  guard (handle = ['!'] ∨ handle.getLast? = some '!')
  guard ((c.rest.head?.map isBlank).getD false)
  let (uri, c) ← Tag.uri? true (c.skip isBlank)
  guard (uri ≠ [] ∧ atSpace c.rest)
  return (tag (String.ofList handle) (String.ofList uri), c)

/-- A directive behind its percent sign, to the end of its line. -/
def read? (c : Cursor) : Option (Directive × Cursor) := do
  let (name, c) := c.span isNameChar
  guard (atSpace c.rest)
  let (d, c) ← match String.ofList name with
    | "YAML" => version? c
    | "TAG" => tag? c
    | _ => none
  let c := c.skip isBlank
  let c := if c.rest.head? = some '#' then c.skip (!isBreak ·) else c
  match c.break? with
  | some (_, c) => return (d, c)
  | none => if c.rest = [] then return (d, c) else none

end Directive
end Manifests.Yaml
