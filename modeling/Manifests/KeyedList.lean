/-!
Lists whose items are told apart by a key.  An item is put in the place of the one it stands for,
and missing items are added behind the present ones.
-/
namespace Manifests.KeyedList

variable {α κ : Type}

/-- Puts an item in the place of the first one that satisfies `p`, or at the end. -/
def put (p : α → Bool) (item : α) : List α → List α
  | [] => [item]
  | a :: rest => if p a then item :: rest else a :: put p item rest

/-- Puts every item of `patch` in the place of its match, one after the other. -/
def putAll (same : α → α → Bool) (base patch : List α) : List α :=
  patch.foldl (fun items item => put (same item) item items) base

/-- Adds the items of `more` whose key no item of `base` has. -/
def addMissing [BEq κ] (key : α → κ) (base more : List α) : List α :=
  base ++ more.filter fun a => !(base.map key).contains (key a)

/-- The list `more` added to an optional list; without `more` nothing changes. -/
def merge? (merge : List α → List α → List α) (base more : Option (List α)) : Option (List α) :=
  match more with
  | none => base
  | some more => some (merge (base.getD []) more)

theorem addMissing_prefix [BEq κ] (key : α → κ) (base more : List α) :
    base <+: addMissing key base more :=
  List.prefix_append _ _

example : put (· == 2) 5 [1, 2, 2] = [1, 5, 2] := by decide

end Manifests.KeyedList
