/-!
Scanning of TOML: reading functions over the characters that are left, and the parts of a text that
carry no value.
-/
namespace Manifests.Toml

/-- A reading function, which fails or leaves the characters behind what it read. -/
abbrev Scan := StateT (List Char) Option

/-- The characters that comments hold: tabs and all but the control characters. -/
def isTextChar (c : Char) : Bool :=
  c = '\t' || (32 ≤ c.toNat && c.toNat ≤ 126) || 128 ≤ c.toNat

def isBlank (c : Char) : Bool := c = ' ' || c = '\t'

namespace Scan

def next? : Scan (Option Char) := return (← get).head?

def char : Scan Char := fun
  | [] => none
  | c :: rest => some (c, rest)

/-- The longest run of characters that satisfy `p`. -/
def span (p : Char → Bool) : Scan (List Char) := fun cs => some (cs.takeWhile p, cs.dropWhile p)

/-- Reads a text if the characters start with it. -/
def accept (s : String) : Scan Bool := fun cs =>
  if s.toList.isPrefixOf cs then some (true, cs.drop s.length) else some (false, cs)

def expect (s : String) : Scan Unit := do
  unless ← accept s do failure

def blanks : Scan Unit := do
  let _ ← span isBlank

def newline : Scan Unit := fun
  | '\n' :: rest => some ((), rest)
  | '\r' :: '\n' :: rest => some ((), rest)
  | _ => none

def comment : Scan Unit := do
  if ← accept "#" then
    let _ ← span isTextChar

/-- What may follow a value on its line, and the end of the line. -/
def lineEnd : Scan Unit := do
  blanks
  comment
  unless (← get).isEmpty do newline

/-- Blanks, line breaks and comments, which have to end in a line break. -/
def skipGap (inComment : Bool) : List Char → Option (List Char)
  | '\n' :: rest => skipGap false rest
  | '\r' :: '\n' :: rest => skipGap false rest
  | c :: rest =>
    if inComment then if isTextChar c then skipGap true rest else none
    else if isBlank c then skipGap false rest
    else if c = '#' then skipGap true rest
    else some (c :: rest)
  | [] => if inComment then none else some []

def gap : Scan Unit := fun cs => (skipGap false cs).map ((), ·)

/-- As many values as can be read, none of which is empty. -/
def many {α : Type} (read : Scan α) : Scan (List α) := do
  loop (← get).length
where
  loop : Nat → Scan (List α)
    | 0 => return []
    | fuel + 1 => do
      match (read.run (← get)) with
      | none => return []
      | some (a, rest) =>
        set rest
        return a :: (← loop fuel)

/-- At least one value, with a separator between every two. -/
def separated {α : Type} (separator : String) (read : Scan α) : Scan (List α) := do
  let first ← read
  let rest ← many do
    expect separator
    read
  return first :: rest

end Scan
end Manifests.Toml
