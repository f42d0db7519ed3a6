/-!
The tree of a TOML document and how tables grow in it.  A table is open for more entries in the way
in which it came to be, and what one entry or header defined no other may define again.
-/
namespace Manifests.Toml

/-- How a table came to be: by a header or as a whole, on the way to a header, or by dotted keys. -/
inductive Origin where
  | defined
  | implied
  | dotted
  deriving Repr, DecidableEq, Inhabited

/-- Values.  Fractions are not told apart, closed tables are written between braces, and `tables`
are those of repeated headers. -/
inductive Node where
  | text (value : String)
  | integer (value : Int)
  | fraction
  | bool (value : Bool)
  | moment (value : String)
  | list (items : List Node)
  | closed (members : List (String × Node))
  | table (origin : Origin) (members : List (String × Node))
  | tables (items : List (List (String × Node)))
  deriving Repr, Inhabited

/-- The members of a table. -/
abbrev Members := List (String × Node)

namespace Members

def get? (members : Members) (name : String) : Option Node :=
  (members.find? (·.1 == name)).map (·.2)

def set (members : Members) (name : String) (value : Node) : Members :=
  members.filter (·.1 != name) ++ [(name, value)]

/-- Changes the table at the end of a path; missing tables on the way are made.  Dotted keys lead
through tables that were not defined, and of several tables into the last. -/
def modifyAt (made : Origin) (f : Origin → Members → Option Members) :
    List String → Origin → Members → Option Members
  | [], origin, members => f origin members
  | name :: path, _, members =>
    match get? members name with
    | none => do
      let inner ← modifyAt made f path made []
      return set members name (.table made inner)
    | some (.table origin inner) =>
      if made = .dotted ∧ origin = .defined then none
      else do
        let inner ← modifyAt made f path origin inner
        return set members name (.table origin inner)
    | some (.tables items) => do
      let inner ← modifyAt made f path .defined (← items.getLast?)
      return set members name (.tables (items.dropLast ++ [inner]))
    | some _ => none

/-- Adds a value of a new name to the table that dotted keys lead to.  Except for the table itself
that has to be one that dotted keys made. -/
def add (members : Members) (path : List String) (name : String) (value : Node) : Option Members :=
  modifyAt .dotted (fun origin inner =>
    if (origin = .dotted) = (path = []) ∨ (get? inner name).isSome then none
    else some (inner ++ [(name, value)])) path .defined members

/-- Adds several values, each behind its dotted keys. -/
def addAll (members : Members) (entries : List (List String × String × Node)) : Option Members :=
  entries.foldlM (fun members (path, name, value) => members.add path name value) members

/-- Defines the table of a header, which so far may only be implied. -/
def addTable (members : Members) (path : List String) (name : String)
    (entries : List (List String × String × Node)) : Option Members :=
  modifyAt .implied (fun _ inner => do
    let base ← match get? inner name with
      | none => some []
      | some (.table .implied base) => some base
      | some _ => none
    return set inner name (.table .defined (← addAll base entries))) path .defined members

/-- Adds one more of the tables of a repeated header. -/
def addToTables (members : Members) (path : List String) (name : String)
    (entries : List (List String × String × Node)) : Option Members :=
  modifyAt .implied (fun _ inner => do
    let before ← match get? inner name with
      | none => some []
      | some (.tables before) => some before
      | some _ => none
    return set inner name (.tables (before ++ [← addAll [] entries]))) path .defined members

end Members
end Manifests.Toml
