import Manifests.Number.Double

/-!
JSON values.  Objects keep their members as they were written, repeated keys included; the
canonical form of a value has sorted keys and, of repeated ones, the last member.
-/
namespace Manifests

/-- Numbers stay integers while they fit a word and are doubles otherwise. -/
inductive JsonNumber where
  | integer (value : Int)
  | double (value : Number.Double)
  deriving Repr, DecidableEq

inductive Json where
  | null
  | bool (value : Bool)
  | number (value : JsonNumber)
  | string (value : String)
  | array (items : List Json)
  | object (members : List (String × Json))
  deriving Repr, BEq, Inhabited

namespace Json

def integer (n : Int) : Json := number (.integer n)

/-- The last member of a key. -/
def lookup? (members : List (String × Json)) (key : String) : Option Json :=
  (members.reverse.find? (·.1 == key)).map (·.2)

/-- The member of a key, for a value that is an object. -/
def get? (value : Json) (key : String) : Option Json :=
  match value with
  | object members => lookup? members key
  | _ => none

/-- Members of an object with one member set. -/
def setMember (members : List (String × Json)) (key : String) (value : Json) :
    List (String × Json) :=
  members.filter (·.1 != key) ++ [(key, value)]

/-- Puts a member at its place among sorted ones, replacing one of the same key. -/
def insertMember (key : String) (value : Json) : List (String × Json) → List (String × Json)
  | [] => [(key, value)]
  | (k, v) :: rest =>
    if key < k then (key, value) :: (k, v) :: rest
    else if key = k then (key, value) :: rest
    else (k, v) :: insertMember key value rest

mutual

/-- The same value with sorted keys, the last of repeated members deciding. -/
def canonical : Json → Json
  | array items => array (canonicalItems items)
  | object members => object (canonicalMembers members [])
  | value => value

def canonicalItems : List Json → List Json
  | [] => []
  | item :: rest => canonical item :: canonicalItems rest

def canonicalMembers : List (String × Json) → List (String × Json) → List (String × Json)
  | [], sorted => sorted
  | (key, value) :: rest, sorted =>
    canonicalMembers rest (insertMember key (canonical value) sorted)

end

end Json
end Manifests
