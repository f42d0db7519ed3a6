import Manifests.Error
import Manifests.SortedMap
import Manifests.Text.Split

/-!
The files that a run can see.  Paths are resolved one name at a time, so a name behind a file or a
missing directory fails in its own way.
-/
namespace Manifests

/-- Files with their content, and directories without one, by the place that they have.  Relative
paths start at the base; the place of an absolute path starts with an empty name. -/
structure FileTree where
  base : List String
  entries : SortedMap (Option String)
  deriving DecidableEq, Inhabited

namespace FileTree

def pathOf (names : List String) : String := String.intercalate "/" names

/-- The names of a path, and empty ones for doubled or final slashes. -/
def names (path : String) : List String := (Text.splitAt '/' path.toList).map String.ofList

/-- What stands at a resolved place: nothing, a directory, or a file. -/
inductive Place where
  | missing
  | directory
  | file (content : String)
  deriving DecidableEq

/-- The place of the root. -/
def root : List String := [""]

def place (t : FileTree) (names : List String) : Place :=
  if names = root ∨ names.isPrefixOf t.base then .directory
  else match t.entries.get? (pathOf names) with
    | none => .missing
    | some none => .directory
    | some (some content) => .file content

/-- The most bytes that a name may have. -/
def maxName : Nat := 255

/-- The most bytes that a path may have. -/
def maxPath : Nat := 4095

/-- Follows names from a place, which has to be a directory while names are left. -/
def follow (t : FileTree) (at_ : List String) : List String → Except ReadFault (List String)
  | [] => .ok at_
  | name :: rest =>
    match t.place at_ with
    | .missing => .error .notFound
    | .file _ => .error .notDirectory
    | .directory =>
      if name = "" ∨ name = "." then follow t at_ rest
      else if name = ".." then
        if at_ = [] then .error .notFound
        else follow t (if at_ = root then root else at_.dropLast) rest
      else if maxName < name.utf8ByteSize then .error .nameTooLong
      else follow t (at_ ++ [name]) rest

/-- The place where the names of a path start. -/
def startOf (t : FileTree) (path : String) : List String :=
  if path.toList.head? = some '/' then root else t.base

def resolve (t : FileTree) (path : String) : Except ReadFault (List String) :=
  if path.toList.contains (Char.ofNat 0) then .error .invalidName
  else if path = "" then .error .notFound
  else if maxPath < path.utf8ByteSize then .error .nameTooLong
  else t.follow (t.startOf path) (names path)

def read (t : FileTree) (path : String) : Except ReadFault String := do
  match t.place (← t.resolve path) with
  | .missing => throw .notFound
  | .directory => throw .isDirectory
  | .file content => return content

def placeAt (t : FileTree) (path : String) : Place :=
  match t.resolve path with
  | .ok names => t.place names
  | .error _ => .missing

def isDirectory (t : FileTree) (path : String) : Bool := t.placeAt path = .directory

def isFile (t : FileTree) (path : String) : Bool :=
  match t.placeAt path with
  | .file _ => true
  | _ => false

def isPresent (t : FileTree) (path : String) : Bool := t.placeAt path ≠ .missing

/-- The names of the files in a directory, in ascending order. -/
def filesIn (t : FileTree) (path : String) : List (String × String) :=
  match t.resolve path with
  | .error _ => []
  | .ok at_ => t.entries.toList.filterMap fun (key, content) => do
    let content ← content
    let place := names key
    let name ← place.getLast?
    if place.dropLast = at_ then some (name, content) else none

/-- Adds the directories on the way to a place. -/
def addDirectories (t : FileTree) (names : List String) : FileTree :=
  (List.range names.length).foldl (fun t i =>
    let key := pathOf (names.take (i + 1))
    if t.entries.contains key then t else { t with entries := t.entries.insert key none }) t

/-- The place that the names of a path lead to when nothing is in the way. -/
def locate (t : FileTree) (path : String) : List String :=
  (names path).foldl (fun at_ name =>
    if name = "" ∨ name = "." then at_
    else if name = ".." then if at_ = root then root else at_.dropLast
    else at_ ++ [name]) (t.startOf path)

/-- Puts a file, or an empty directory for a path that ends in a slash, and what leads there. -/
def add (t : FileTree) (path content : String) : FileTree :=
  let place := t.locate path
  if path.toList.getLast? = some '/' then t.addDirectories place
  else
    let t := t.addDirectories place.dropLast
    { t with entries := t.entries.insert (pathOf place) (some content) }

/-- A tree of nothing but some files, with relative paths. -/
def ofList (files : List (String × String)) : FileTree :=
  files.foldl (fun t (path, content) => t.add path content) ⟨[], ∅⟩

/-- Makes the directories that the names lead through; a file on the way is in the way. -/
def makeDirectories (t : FileTree) (at_ : List String) :
    List String → Option (FileTree × List String)
  | [] => some (t, at_)
  | name :: rest =>
    if name = "" ∨ name = "." then makeDirectories t at_ rest
    else if name = ".." then
      if at_ = [] then none
      else makeDirectories t (if at_ = root then root else at_.dropLast) rest
    else
      let here := at_ ++ [name]
      match t.place here with
      | .file _ => none
      | .directory => makeDirectories t here rest
      | .missing =>
        if maxName < name.utf8ByteSize then none
        else makeDirectories { t with entries := t.entries.insert (pathOf here) none } here rest

/-- Writes a file after making the directories that lead to it. -/
def write (t : FileTree) (path content : String) : Except Error FileTree :=
  let parts := (names path).reverse.dropWhile fun n => n = "" ∨ n = "."
  match parts with
  | [] => .error .io
  | name :: parents =>
    if name = ".." ∨ path.toList.contains (Char.ofNat 0) ∨ maxName < name.utf8ByteSize ∨
      maxPath < path.utf8ByteSize then .error .io
    else match t.makeDirectories (t.startOf path) parents.reverse with
      | none => .error .io
      | some (t, at_) =>
        match t.place (at_ ++ [name]) with
        | .directory => .error .io
        | .file _ | .missing =>
          if path.toList.getLast? = some '/' then .error .io
          else .ok { t with entries := t.entries.insert (pathOf (at_ ++ [name])) (some content) }

/-- The files that the second tree has and the first lacks or has with other content. -/
def changes (before after : FileTree) : List (String × String) :=
  after.entries.toList.filterMap fun (path, content) => do
    let content ← content
    if before.entries.get? path = some (some content) then none else some (path, content)

/-- The last name of a path, unless the path ends in a step upwards. -/
def fileName? (path : String) : Option String :=
  match (names path).reverse.dropWhile fun n => n = "" ∨ n = "." with
  | [] => none
  | name :: _ => if name = ".." then none else some name

/-- What follows the last dot of a file name that does not start with it. -/
def extension? (path : String) : Option String := do
  let name ← fileName? path
  let (before, after) ← Text.cutLast? '.' name.toList
  if before = [] then none else some (String.ofList after)

/-- A name within the directory of a path. -/
def join (directory name : String) : String :=
  if directory = "" ∨ directory.toList.getLast? = some '/' then directory ++ name
  else directory ++ "/" ++ name

example : extension? "a.b/x.tar.gz" = some "gz" := by decide +kernel
example : extension? "a/.yml" = none := by decide +kernel

end FileTree
end Manifests
