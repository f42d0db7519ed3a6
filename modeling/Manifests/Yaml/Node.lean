import Manifests.Yaml.Token

/-!
The tree of a YAML document.  An alias stays a number in the tree; which node it stands for is
settled when the whole document has been read.
-/
namespace Manifests.Yaml

inductive Node where
  | scalar (tag : Option String) (style : Style) (text : String)
  | sequence (tag : Option String) (items : List Node)
  | mapping (tag : Option String) (entries : List (Node × Node))
  | alias_ (number : Nat)
  deriving Repr, Inhabited

namespace Node

/-- A node that is not written. -/
def missing : Node := scalar none .plain ""

end Node

/-- The anchored nodes of a document.  Anchors are numbered by how many names were in use before;
a name that is used again takes a new number, which a later name may share. -/
structure Anchors where
  numbers : List (String × Nat)
  /-- For each number the place of its node among the anchored nodes, the latest first. -/
  places : List (Nat × Nat)
  nodes : List (Nat × Node)
  count : Nat

namespace Anchors

def empty : Anchors := ⟨[], [], [], 0⟩

/-- Notes that an anchored node begins. -/
def declare (a : Anchors) (name : String) : Anchors :=
  let number := a.numbers.length
  { a with
    numbers := (name, number) :: a.numbers.filter (·.1 != name)
    places := (number, a.count) :: a.places
    count := a.count + 1 }

def number? (a : Anchors) (name : String) : Option Nat := (a.numbers.find? (·.1 == name)).map (·.2)

/-- The node that an alias stands for. -/
def node? (a : Anchors) (number : Nat) : Option Node := do
  let (_, place) ← a.places.find? (·.1 == number)
  let (_, node) ← a.nodes.find? (·.1 == place)
  return node

end Anchors

/-- What is left of the tokens, the tag handles in force, and the anchors so far. -/
structure Reading where
  tokens : List Token
  handles : List (String × String)
  anchors : Anchors

namespace Reading

abbrev Read (α : Type) := StateT Reading Option α

/-- The next token, or none at the end. -/
def peek : Read (Option Token) := do return (← get).tokens.head?

def skip : Read Unit := modify fun r => { r with tokens := r.tokens.tail }

def expect (t : Token) : Read Unit := do
  guard ((← peek) = some t)
  skip

def standardHandles : List (String × String) := [("!", "!"), ("!!", "tag:yaml.org,2002:")]

/-- The whole tag of a handle and a suffix. -/
def tagOf (handle suffix : String) : Read String := do
  if handle = "" then return suffix
  match (← get).handles.find? (·.1 == handle) with
  | some (_, uri) => return uri ++ suffix
  | none => failure

/-- The anchor and tag in front of a node, in either order. -/
def properties : Read (Option String × Option String) := do
  match ← peek with
  | some (.anchor name) => do
    skip
    match ← peek with
    | some (.tag handle suffix) => do
      skip
      return (some name, some (← tagOf handle suffix))
    | _ => return (some name, none)
  | some (.tag handle suffix) => do
    skip
    match ← peek with
    | some (.anchor name) => do
      skip
      return (some name, some (← tagOf handle suffix))
    | _ => return (none, some (← tagOf handle suffix))
  | _ => return (none, none)

/-- Reads a node that an anchor may name; the anchor is known within the node already. -/
def anchored (anchor : Option String) (read : Read Node) : Read Node := do
  match anchor with
  | none => read
  | some name => do
    let place := (← get).anchors.count
    modify fun r => { r with anchors := r.anchors.declare name }
    let node ← read
    modify fun r => { r with
      anchors := { r.anchors with nodes := (place, node) :: r.anchors.nodes } }
    return node

def isOneOf (tokens : List Token) : Option Token → Bool
  | some t => tokens.contains t
  | none => true

mutual

/-- A node.  Block collections only count outside of brackets, and entries without a block of
their own only in a mapping. -/
def node (block indentless : Bool) : Nat → Read Node
  | 0 => failure
  | fuel + 1 => do
    match ← peek with
    | some (.alias_ name) => do
      skip
      match (← get).anchors.number? name with
      | some number => return .alias_ number
      | none => failure
    | _ => do
      let (anchor, tag) ← properties
      anchored anchor do
        match ← peek with
        | some .blockEntry =>
          if indentless then return .sequence tag (← indentlessItems fuel)
          else if anchor.isSome || tag.isSome then return .scalar tag .plain ""
          else failure
        | some (.scalar style text) => do
          skip
          return .scalar tag style text
        | some .flowSequenceStart => do
          skip
          return .sequence tag (← flowItems true fuel)
        | some .flowMappingStart => do
          skip
          return .mapping tag (← flowEntries true fuel)
        | t =>
          if block && t == some .blockSequenceStart then do
            skip
            return .sequence tag (← blockItems fuel)
          else if block && t == some .blockMappingStart then do
            skip
            return .mapping tag (← blockEntries fuel)
          else if anchor.isSome || tag.isSome then return .scalar tag .plain ""
          else failure

/-- A node, unless one of the given tokens shows that it is missing. -/
def nodeUnless (ends : List Token) (block indentless : Bool) : Nat → Read Node
  | 0 => failure
  | fuel + 1 => do
    if isOneOf ends (← peek) then return Node.missing
    node block indentless fuel

def blockItems : Nat → Read (List Node)
  | 0 => failure
  | fuel + 1 => do
    match ← peek with
    | some .blockEntry => do
      skip
      let item ← nodeUnless [.blockEntry, .blockEnd] true false fuel
      return item :: (← blockItems fuel)
    | some .blockEnd => do
      skip
      return []
    | _ => failure

def indentlessItems : Nat → Read (List Node)
  | 0 => failure
  | fuel + 1 => do
    match ← peek with
    | some .blockEntry => do
      skip
      let item ← nodeUnless [.blockEntry, .key, .value, .blockEnd] true false fuel
      return item :: (← indentlessItems fuel)
    | _ => return []

def blockEntries : Nat → Read (List (Node × Node))
  | 0 => failure
  | fuel + 1 => do
    match ← peek with
    | some .key => do
      skip
      let key ← nodeUnless [.key, .value, .blockEnd] true true fuel
      let value ← blockValue fuel
      return (key, value) :: (← blockEntries fuel)
    | some .blockEnd => do
      skip
      return []
    | _ => failure

def blockValue : Nat → Read Node
  | 0 => failure
  | fuel + 1 => do
    match ← peek with
    | some .value => do
      skip
      nodeUnless [.key, .value, .blockEnd] true true fuel
    | _ => return Node.missing

/-- The items of a bracketed sequence; a key among them is a mapping of one entry. -/
def flowItems (first : Bool) : Nat → Read (List Node)
  | 0 => failure
  | fuel + 1 => do
    if (← peek) = some .flowSequenceEnd then
      skip
      return []
    if !first then expect .flowEntry
    match ← peek with
    | some .flowSequenceEnd => do
      skip
      return []
    | some .key => do
      skip
      let entry ← singleEntry fuel
      return .mapping none [entry] :: (← flowItems false fuel)
    | _ => do
      let item ← node false false fuel
      return item :: (← flowItems false fuel)

/-- The entry behind a key in a bracketed sequence.  If the key is missing, so is the value: the
token in the key's place is passed over. -/
def singleEntry : Nat → Read (Node × Node)
  | 0 => failure
  | fuel + 1 => do
    let key ←
      if isOneOf [.value, .flowEntry, .flowSequenceEnd] (← peek) then do
        skip
        pure Node.missing
      else node false false fuel
    let value ← flowValue .flowSequenceEnd fuel
    return (key, value)

def flowValue (closing : Token) : Nat → Read Node
  | 0 => failure
  | fuel + 1 => do
    match ← peek with
    | some .value => do
      skip
      nodeUnless [.flowEntry, closing] false false fuel
    | _ => return Node.missing

/-- The entries of a bracketed mapping. -/
def flowEntries (first : Bool) : Nat → Read (List (Node × Node))
  | 0 => failure
  | fuel + 1 => do
    if (← peek) = some .flowMappingEnd then
      skip
      return []
    if !first then expect .flowEntry
    match ← peek with
    | some .flowMappingEnd => do
      skip
      return []
    | some .key => do
      skip
      let key ← nodeUnless [.value, .flowEntry, .flowMappingEnd] false false fuel
      let value ← flowValue .flowMappingEnd fuel
      return (key, value) :: (← flowEntries false fuel)
    | _ => do
      let key ← node false false fuel
      return (key, Node.missing) :: (← flowEntries false fuel)

end

/-- The directives in front of a document: at most one version, which has to be 1.1 or 1.2, and
handles that are all different. -/
def directives : Read Unit := do
  let r ← get
  let leading := r.tokens.takeWhile fun
    | .directive _ => true
    | _ => false
  let versions : List (Nat × Nat) := leading.filterMap fun
    | .directive (.version major minor) => some (major, minor)
    | _ => none
  let handles : List (String × String) := leading.filterMap fun
    | .directive (.tag handle uri) => some (handle, uri)
    | _ => none
  guard (versions.length ≤ 1 ∧ ∀ v ∈ versions, v = (1, 1) ∨ v = (1, 2))
  let names : List String := handles.map (·.1)
  guard (names.Nodup)
  set { r with tokens := r.tokens.drop leading.length, handles := handles ++ standardHandles }

/-- Whether a document ends at a token. -/
def endsDocument : Option Token → Bool
  | none | some .documentStart | some .documentEnd | some (.directive _) => true
  | _ => false

/-- The root of a document, behind directives and a marker or without either. -/
def root (fuel : Nat) : Read Node := do
  match ← peek with
  | some (.directive _) | some .documentStart => do
    directives
    expect .documentStart
    if endsDocument (← peek) then return Node.missing
    node true false fuel
  | _ => node true false fuel

end Reading

/-- The only document of a text; an empty text has no root. -/
structure Tree where
  root : Option Node
  anchors : Anchors

/-- The document of all tokens.  Behind it there may be nothing but end markers. -/
def Tree.ofTokens? (tokens : List Token) : Option Tree := do
  if tokens = [] then return ⟨none, .empty⟩
  let (root, r) ← (Reading.root (4 * tokens.length + 8)).run
    ⟨tokens, Reading.standardHandles, .empty⟩
  guard (r.tokens.all (· == .documentEnd))
  return ⟨some root, r.anchors⟩

def Tree.ofText? (text : String) : Option Tree := do Tree.ofTokens? (← Token.ofText? text)

end Manifests.Yaml
