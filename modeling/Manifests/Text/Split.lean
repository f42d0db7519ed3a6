/-!
Cutting texts: at every occurrence of a character, at its first or last one, and into lines.
-/
namespace Manifests.Text

/-- The pieces between the occurrences of `sep`; there is one more piece than occurrences. -/
def splitAt (sep : Char) : List Char → List (List Char)
  | [] => [[]]
  | c :: rest =>
    if c = sep then [] :: splitAt sep rest
    else match splitAt sep rest with
      | [] => [[c]]
      | piece :: pieces => (c :: piece) :: pieces

theorem splitAt_ne_nil (sep : Char) (cs : List Char) : splitAt sep cs ≠ [] := by
  cases cs with
  | nil => simp [splitAt]
  | cons c rest =>
    rw [splitAt]
    split
    · simp
    · split <;> simp

/-- What stands before and after the first occurrence of `sep`. -/
def cutFirst? (sep : Char) : List Char → Option (List Char × List Char)
  | [] => none
  | c :: rest =>
    if c = sep then some ([], rest)
    else (cutFirst? sep rest).map fun (before, after) => (c :: before, after)

/-- What stands before and after the last occurrence of `sep`. -/
def cutLast? (sep : Char) (cs : List Char) : Option (List Char × List Char) :=
  (cutFirst? sep cs.reverse).map fun (after, before) => (before.reverse, after.reverse)

def dropReturn (line : List Char) : List Char :=
  match line.reverse with
  | '\r' :: front => front.reverse
  | _ => line

/-- The lines of a text.  A carriage return before a line feed belongs to the break, and a final
line feed ends the last line without starting another. -/
def lines (cs : List Char) : List (List Char) :=
  let pieces := splitAt '\n' cs
  let complete := pieces.dropLast.map dropReturn
  match pieces.getLast? with
  | some [] => complete
  | some final => complete ++ [final]
  | none => complete

example : splitAt ',' "a,,b".toList = ["a".toList, [], "b".toList] := by decide
example : cutLast? ':' "a:b:c".toList = some ("a:b".toList, "c".toList) := by decide
example : lines "a\r\nb\n".toList = ["a".toList, "b".toList] := by decide

end Manifests.Text
