import Manifests.Text.HostName.Direction.Tables

/-!
Names that are written from right to left.  Where a label of a name holds such letters or Arabic
digits, every label has to read in one direction.
-/
namespace Manifests.Text.HostName

inductive Direction where
  | left
  | right
  | arabicNumber
  | europeanNumber
  | neutral
  | mark
  deriving Repr, DecidableEq

namespace Direction

def ofChar (c : Char) : Direction :=
  let n := c.toNat
  if inRanges rightRanges n then right
  else if inRanges arabicNumberRanges n then arabicNumber
  else if inRanges europeanNumberRanges n then europeanNumber
  else if inRanges neutralRanges n then neutral
  else if inRanges nonspacingRanges n then mark else left

/-- Whether a character makes the direction of all labels matter. -/
def isFromRight (d : Direction) : Bool := d == right || d == arabicNumber

def dropMarks (ds : List Direction) : List Direction := (ds.reverse.dropWhile (· == mark)).reverse

/-- Whether the directions of a label start with a letter and fit that letter. -/
def areUniform (ds : List Direction) : Bool :=
  match dropMarks ds with
  | [] => ds == []
  | left :: rest =>
    rest.all (fun d => !d.isFromRight) &&
      (match rest.getLast? with
        | some d => d == left || d == europeanNumber
        | none => true)
  | right :: rest =>
    rest.all (· ≠ left) && !(rest.contains arabicNumber && rest.contains europeanNumber) &&
      rest.getLast? ≠ some neutral
  | _ => false

end Direction

/-- Whether each label of a name reads in one direction, if that matters. -/
def readsInOneDirection (labels : List (List Char)) : Bool :=
  let directions := labels.map fun label => label.map Direction.ofChar
  !directions.any (fun ds => ds.any Direction.isFromRight) || directions.all Direction.areUniform

example : Direction.areUniform [.right, .europeanNumber, .mark] = true := by decide
example : Direction.areUniform [.right, .left] = false := by decide

end Manifests.Text.HostName
