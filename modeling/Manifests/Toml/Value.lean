import Manifests.Toml.Moment
import Manifests.Toml.Node
import Manifests.Toml.Number
import Manifests.Toml.Text

/-!
Keys and values of TOML.
-/
namespace Manifests.Toml

open Scan

/-- How deep values nest, and how many parts a key has, at most. -/
def maxDepth : Nat := 79

def isBareChar (c : Char) : Bool := c.isAlphanum || c = '-' || c = '_'

/-- One part of a key: bare, or a text on one line. -/
def keyPart : Scan String := do
  blanks
  let name ← if ← accept "\"" then Text.basic
    else if ← accept "'" then Text.literal
    else do
      let name ← span isBareChar
      if name = [] then failure
      pure name
  blanks
  return String.ofList name

/-- The parts in front of the last one, and the last one. -/
def key : Scan (List String × String) := do
  let parts ← separated "." keyPart
  if maxDepth < parts.length then failure
  match parts.getLast? with
  | some name => return (parts.dropLast, name)
  | none => failure

/-- A key with its value, which `read` reads. -/
def entry (read : Scan Node) : Scan (List String × String × Node) := do
  let (path, name) ← key
  expect "="
  blanks
  return (path, name, ← read)

/-- The items behind an opening bracket; a comma may follow the last one. -/
def listItems (read : Scan Node) : Scan (List Node) := do
  let items ← (do
    let items ← separated "," do
      gap
      let item ← read
      gap
      return item
    let _ ← accept ","
    return items) <|> pure []
  gap
  expect "]"
  return items

/-- The members behind an opening brace, all on one line. -/
def closedMembers (read : Scan Node) : Scan Members := do
  let entries ← (separated "," do
    let e ← entry read
    blanks
    return e) <|> pure []
  blanks
  expect "\x7d"
  match Members.addAll [] entries with
  | some members => return members
  | none => failure

/-- A value that is not made of others. -/
def scalar : Scan Node := do
  match ← next? with
  | some '"' | some '\'' => return .text (← Text.any)
  | some 't' =>
    expect "true"
    return .bool true
  | some 'f' =>
    expect "false"
    return .bool false
  | some _ =>
    (.moment <$> Moment.any) <|> (do Number.fraction; return .fraction) <|>
      (.integer <$> Number.integer)
  | none => failure

/-- A value that nests no deeper than a depth. -/
def value : Nat → Scan Node
  | 0 => scalar
  | depth + 1 => do
    if ← accept "[" then return .list (← listItems (value depth))
    else if ← accept "\x7b" then return .closed (← closedMembers (value depth))
    else scalar

end Manifests.Toml
