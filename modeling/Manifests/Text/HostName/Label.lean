import Manifests.Text.HostName.Label.Tables

/-!
Labels of host names.  A label does not start with a mark, and holds an invisible joiner only
where the script needs one.
-/
namespace Manifests.Text.HostName.Label

/-- Whether the next letter in a direction, marks aside, satisfies `p`. -/
def meets (p : Nat → Bool) (cs : List Char) : Bool :=
  match cs.dropWhile fun c => inRanges transparentRanges c.toNat with
  | c :: _ => p c.toNat
  | [] => false

def joinsBehind (n : Nat) : Bool := inRanges joinsBothRanges n || inRanges joinsLeftRanges n

def joinsBefore (n : Nat) : Bool := inRanges joinsBothRanges n || inRanges joinsRightRanges n

/-- Whether each joiner stands behind a silencer, or, if it separates, between letters that would
join; `before` holds what was passed, in reverse. -/
def hasJoinersInPlace (before : List Char) : List Char → Bool
  | [] => true
  | c :: rest =>
    let isJoiner := c = '\u200C' ∨ c = '\u200D'
    let isInPlace := match before with
      | b :: _ =>
        inRanges silencerRanges b.toNat ||
          (c = '\u200C' && meets joinsBehind before && meets joinsBefore rest)
      | [] => false
    (!isJoiner || isInPlace) && hasJoinersInPlace (c :: before) rest

def startsWithMark (cs : List Char) : Bool :=
  match cs with
  | c :: _ => inRanges markRanges c.toNat
  | [] => false

def isValid (cs : List Char) : Bool := !startsWithMark cs && hasJoinersInPlace [] cs

end Manifests.Text.HostName.Label
