import Manifests.Text.Hexadecimal
import Manifests.Yaml.Cursor

/-!
The texts of YAML scalars in their styles.  A line break within a text is folded: alone it is a
space, and of several the first is dropped.
-/
namespace Manifests.Yaml

inductive Style where
  | plain
  | quoted
  | literal
  | folded
  deriving Repr, DecidableEq, Inhabited

/-- White space between two parts of a text: blanks on one line, or line breaks. -/
structure Gap where
  broken : Bool
  blanks : List Char
  first : List Char
  more : List Char
  deriving Repr, DecidableEq

namespace Gap

def none : Gap := ⟨false, [], [], []⟩

/-- The gap of an escaped line break, which leaves nothing. -/
def joined : Gap := ⟨true, [], [], []⟩

/-- What is left of a gap between two parts. -/
def text (g : Gap) : List Char :=
  if !g.broken then g.blanks
  else if g.first = ['\n'] then if g.more = [] then [' '] else g.more
  else g.first ++ g.more

def addBreak (g : Gap) (b : List Char) : Gap :=
  if g.broken then { g with more := g.more ++ b } else ⟨true, [], b, []⟩

/-- Reads on to the next part.  On a new line no tab may stand before the column `limit`. -/
def read? (limit : Nat) : Nat → Gap → Cursor → Option (Gap × Cursor)
  | 0, _, _ => Option.none
  | fuel + 1, g, c =>
    match c.rest with
    | [] => some (g, c)
    | b :: _ =>
      if isBlank b then
        if !g.broken then read? limit fuel { g with blanks := g.blanks ++ [b] } (c.advance 1)
        else if b = '\t' && c.column < limit then Option.none
        else read? limit fuel g (c.advance 1)
      else match c.break? with
        | some (b, c) => read? limit fuel (g.addBreak b) c
        | Option.none => some (g, c)

end Gap

namespace Plain

/-- The characters that end a plain text inside of brackets. -/
def isFlowEnd (c : Char) : Bool := c = ',' || c = '[' || c = ']' || c = '\x7b' || c = '\x7d'

/-- A run of a plain text on one line.  A colon ends it before white space; inside of brackets a
colon may not stand before a bracket, comma or question mark. -/
def run? (flow : Bool) : List Char → Option (List Char)
  | [] => some []
  | c :: rest =>
    if atSpace (c :: rest) then some []
    else if flow && c = ':' && startsFlowEnd rest then none
    else if (c = ':' && atSpace rest) || (flow && isFlowEnd c) then some []
    else (run? flow rest).map (c :: ·)
where
  startsFlowEnd : List Char → Bool
    | [] => false
    | c :: _ => isFlowEnd c || c = '?'

/-- The text from a place on, in reverse behind `done`, and whether it ended on a new line. -/
def lines? (flow : Bool) (indent : Nat) : Nat → List Char → Gap → Cursor →
    Option (List Char × Bool × Cursor)
  | 0, _, _, _ => none
  | fuel + 1, done, g, c =>
    if c.atDocumentMarker || c.rest.head? = some '#' then some (done, g.broken, c)
    else do
      let run ← run? flow c.rest
      let c := c.advance run.length
      let (done, g) :=
        if run = [] then (done, g) else (run.reverse ++ (g.text.reverse ++ done), Gap.none)
      if c.rest = [] || !atSpace c.rest then return (done, g.broken, c)
      let (g, c) ← Gap.read? indent (c.rest.length + 1) Gap.none c
      if !flow && c.column < indent then return (done, g.broken, c)
      lines? flow indent fuel done g c

/-- A plain text whose later lines are indented to at least `indent`, and whether it ended on a
new line. -/
def read? (flow : Bool) (indent : Nat) (c : Cursor) : Option (List Char × Bool × Cursor) := do
  let (text, broken, c) ← lines? flow indent (c.rest.length + 1) [] Gap.none c
  return (text.reverse, broken, c)

end Plain

namespace Quoted

/-- The character of `n` hexadecimal digits. -/
def hexChar? (n : Nat) (cs : List Char) : Option Char := do
  let digits := cs.take n
  guard (digits.length = n)
  let value ← digits.foldlM (fun v d => (Text.hexDigit? d).map (v * 16 + ·)) 0
  guard value.isValidChar
  return Char.ofNat value

/-- The character of an escape without digits. -/
def escape? (c : Char) : Option Char :=
  match c with
  | '0' => some (Char.ofNat 0)
  | 'a' => some (Char.ofNat 7)
  | 'b' => some (Char.ofNat 8)
  | 't' => some '\t'
  | '\t' => some '\t'
  | 'n' => some '\n'
  | 'v' => some (Char.ofNat 11)
  | 'f' => some (Char.ofNat 12)
  | 'r' => some '\r'
  | 'e' => some (Char.ofNat 27)
  | ' ' => some ' '
  | '"' => some '"'
  | '/' => some '/'
  | '\\' => some '\\'
  | 'N' => some (Char.ofNat 0x85)
  | '_' => some (Char.ofNat 0xA0)
  | 'L' => some (Char.ofNat 0x2028)
  | 'P' => some (Char.ofNat 0x2029)
  | _ => none

/-- How many digits an escape takes. -/
def digitsOf (c : Char) : Nat :=
  if c = 'x' then 2 else if c = 'u' then 4 else if c = 'U' then 8 else 0

/-- An escape behind its backslash, and how many characters it takes. -/
def escaped? : List Char → Option (Char × Nat)
  | [] => none
  | c :: rest =>
    if digitsOf c = 0 then (escape? c).map (·, 1)
    else (hexChar? (digitsOf c) rest).map (·, 1 + digitsOf c)

/-- A run on one line, in reverse behind `done`, and whether an escaped line break ended it. -/
def run? (single : Bool) : Nat → List Char → Cursor → Option (List Char × Bool × Cursor)
  | 0, _, _ => none
  | fuel + 1, done, c =>
    match c.rest with
    | [] => some (done, false, c)
    | ch :: rest =>
      if atSpace c.rest then some (done, false, c)
      else if single then
        if ch = '\'' then
          if rest.head? = some '\'' then run? single fuel ('\'' :: done) (c.advance 2)
          else some (done, false, c)
        else run? single fuel (ch :: done) (c.advance 1)
      else if ch = '"' then some (done, false, c)
      else if ch = '\\' then
        match (c.advance 1).break? with
        | some (_, c) => some (done, true, c)
        | none => do
          let (e, n) ← escaped? rest
          run? single fuel (e :: done) (c.advance (n + 1))
      else run? single fuel (ch :: done) (c.advance 1)

/-- The text up to its closing quote, in reverse behind `done`. -/
def lines? (single : Bool) : Nat → List Char → Cursor → Option (List Char × Cursor)
  | 0, _, _ => none
  | fuel + 1, done, c => do
    if c.atDocumentMarker || c.rest = [] then none
    let (done, joined, c) ← run? single (c.rest.length + 1) done c
    if c.rest.head? = some (if single then '\'' else '"') then return (done, c.advance 1)
    let (g, c) ← Gap.read? 0 (c.rest.length + 1) (if joined then Gap.joined else Gap.none) c
    lines? single fuel (g.text.reverse ++ done) c

/-- A quoted text behind its opening quote. -/
def read? (single : Bool) (c : Cursor) : Option (List Char × Cursor) := do
  let (text, c) ← lines? single (c.rest.length + 1) [] c
  return (text.reverse, c)

end Quoted

namespace Block

/-- What becomes of the line breaks at the end of a block. -/
inductive Chomping where
  | strip
  | clip
  | keep
  deriving Repr, DecidableEq

def chomping? : Char → Option Chomping
  | '+' => some .keep
  | '-' => some .strip
  | _ => none

/-- The indentation that a digit states; zero is refused. -/
def increment? (c : Char) : Option Nat := if '1' ≤ c && c ≤ '9' then some (c.toNat - 48) else none

/-- The indicators behind the mark of a block, in either order. -/
def header? (cs : List Char) : Option (Chomping × Option Nat × Nat) :=
  match cs with
  | [] => some (.clip, none, 0)
  | a :: rest =>
    match chomping? a with
    | some chomping =>
      match rest with
      | d :: _ =>
        if d.isDigit then (increment? d).map (chomping, some ·, 2) else some (chomping, none, 1)
      | [] => some (chomping, none, 1)
    | none =>
      if a.isDigit then do
        let n ← increment? a
        match rest.head?.bind chomping? with
        | some chomping => return (chomping, some n, 2)
        | none => return (.clip, some n, 1)
      else some (.clip, none, 0)

/-- Skips empty lines.  Without an indentation it is found on the way: the widest of these lines
and of the first one with text, but no less than `least`. -/
def breaks? (least : Nat) (indent : Option Nat) : Nat → Nat → List Char → Cursor →
    Option (Nat × List Char × Cursor)
  | 0, _, _, _ => none
  | fuel + 1, widest, breaks, c =>
    let spaces := (c.rest.takeWhile (· = ' ')).length
    let spaces := match indent with
      | some n => min spaces (n - c.column)
      | none => spaces
    let c := c.advance spaces
    let widest := max widest c.column
    let within := match indent with
      | some n => decide (c.column < n)
      | none => true
    if within && c.rest.head? = some '\t' then none
    else match c.break? with
      | some (b, c) => breaks? least indent fuel widest (breaks ++ b) c
      | none => some (indent.getD (max widest least), breaks, c)

/-- The lines of a block, in reverse behind `done`; with them the break behind the last line and
those of the empty lines that follow. -/
def lines? (isFolded : Bool) (indent : Nat) : Nat → List Char → Bool → List Char → List Char →
    Cursor → Option (List Char × List Char × List Char × Cursor)
  | 0, _, _, _, _, _ => none
  | fuel + 1, done, blank, first, more, c =>
    if c.column ≠ indent || c.rest = [] then some (done, first, more, c)
    else do
      let indented := (c.rest.head?.map isBlank).getD false
      let done :=
        if isFolded && first = ['\n'] && !blank && !indented then
          if more = [] then ' ' :: done else done
        else first.reverse ++ done
      let (line, c) := c.span (!isBreak ·)
      let (first, c) := c.break?.getD ([], c)
      let done := line.reverse ++ (more.reverse ++ done)
      let (_, more, c) ← breaks? 1 (some indent) (c.rest.length + 1) 0 [] c
      lines? isFolded indent fuel done indented first more c

/-- A block behind its mark; `parent` is the indentation around it, if there is any. -/
def read? (isFolded : Bool) (parent : Option Nat) (c : Cursor) : Option (List Char × Cursor) := do
  let (chomping, increment, n) ← header? c.rest
  let c := (c.advance n).skip isBlank
  let c := if c.rest.head? = some '#' then c.skip (!isBreak ·) else c
  let c ← if c.rest = [] then some c else c.break?.map (·.2)
  let least := match parent with
    | some p => p + 1
    | none => 1
  let indent := increment.map (parent.getD 0 + ·)
  let fuel := c.rest.length + 1
  let (indent, more, c) ← breaks? least indent fuel 0 [] c
  let (done, first, more, c) ← lines? isFolded indent fuel [] false [] more c
  let done := if chomping = .strip then done else first.reverse ++ done
  let done := if chomping = .keep then more.reverse ++ done else done
  return (done.reverse, c)

end Block
end Manifests.Yaml
