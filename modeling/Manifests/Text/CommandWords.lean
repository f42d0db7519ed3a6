import Manifests.Text.Blank

/-!
Words of a command line.  Quotes of either kind group characters and vanish, white space outside
of quotes separates words, and a quote that is never closed makes the line unreadable.
-/
namespace Manifests.Text.CommandWords

/-- How far a line is read: finished words, the current word and the open quote.  A word that has
begun may still be empty. -/
structure State where
  finished : List (List Char)
  word : Option (List Char)
  quote : Option Char
  deriving DecidableEq

def State.start : State := ⟨[], none, none⟩

def isQuote (c : Char) : Bool := c = '"' || c = '\''

/-- Appends a character to the current word, which begins if need be. -/
def State.push (s : State) (c : Char) : State :=
  { s with word := some (s.word.getD [] ++ [c]) }

/-- Ends the current word, if one has begun. -/
def State.flush (s : State) : State :=
  match s.word with
  | some w => { s with finished := s.finished ++ [w], word := none }
  | none => s

def State.step (s : State) (c : Char) : State :=
  match s.quote with
  | some q => if c = q then { s with quote := none } else s.push c
  | none =>
    if isQuote c then { s with quote := some c, word := some (s.word.getD []) }
    else if isBlankChar c then s.flush
    else s.push c

def scan (cs : List Char) : State := cs.foldl State.step State.start

/-- The words of a line, unless it ends inside a quote. -/
def split? (line : String) : Option (List String) :=
  let s := scan line.toList
  if s.quote.isSome then none else some (s.flush.finished.map String.ofList)

example : split? "echo 'a b' \"\"" = some ["echo", "a b", ""] := by decide +kernel
example : split? "it's" = none := by decide +kernel

end Manifests.Text.CommandWords
