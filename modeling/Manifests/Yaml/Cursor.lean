/-!
Places in a YAML text: the characters still to be read, how many bytes were read, and the line and
column that were reached.
-/
namespace Manifests.Yaml

/-- The characters that a text may hold: tabs, line breaks and what can be printed. -/
def isAllowed (c : Char) : Bool :=
  let n := c.toNat
  n == 9 || n == 10 || n == 13 || (32 ≤ n && n ≤ 126) || n == 0x85 || (0xA0 ≤ n && n ≤ 0xD7FF) ||
    (0xE000 ≤ n && n ≤ 0xFFFD) || 0x10000 ≤ n

def isBlank (c : Char) : Bool := c = ' ' || c = '\t'

/-- Line breaks: line feed, carriage return, and three breaks beyond ASCII. -/
def isBreak (c : Char) : Bool :=
  let n := c.toNat
  n == 10 || n == 13 || n == 0x85 || n == 0x2028 || n == 0x2029

/-- Whether a text is at its end or goes on with white space. -/
def atSpace : List Char → Bool
  | [] => true
  | c :: _ => isBlank c || isBreak c

/-- Characters of names: ASCII letters, digits, hyphen and underscore. -/
def isNameChar (c : Char) : Bool := c.isAlphanum || c = '-' || c = '_'

structure Cursor where
  rest : List Char
  bytes : Nat
  line : Nat
  column : Nat
  deriving Repr, DecidableEq

namespace Cursor

def start (cs : List Char) : Cursor := ⟨cs, 0, 0, 0⟩

/-- How many bytes some characters take. -/
def byteCount (cs : List Char) : Nat := cs.foldl (fun n c => n + c.utf8Size) 0

/-- The place behind `n` characters of the same line. -/
def advance (c : Cursor) (n : Nat) : Cursor :=
  { c with
    rest := c.rest.drop n
    bytes := c.bytes + byteCount (c.rest.take n)
    column := c.column + n }

/-- The run of characters that satisfy `p`, and the place behind it. -/
def span (c : Cursor) (p : Char → Bool) : List Char × Cursor :=
  let run := c.rest.takeWhile p
  (run, c.advance run.length)

def skip (c : Cursor) (p : Char → Bool) : Cursor := (c.span p).2

/-- The start of the next line, with `n` characters dropped. -/
def newLine (c : Cursor) (n : Nat) : Cursor :=
  ⟨c.rest.drop n, c.bytes + byteCount (c.rest.take n), c.line + 1, 0⟩

/-- What a line break stands for, and the line behind it.  Only the separators of lines and
paragraphs stand for themselves. -/
def break? (c : Cursor) : Option (List Char × Cursor) :=
  match c.rest with
  | '\r' :: '\n' :: _ => some (['\n'], c.newLine 2)
  | b :: _ =>
    if !isBreak b then none
    else if b.toNat = 0x2028 || b.toNat = 0x2029 then some ([b], c.newLine 1)
    else some (['\n'], c.newLine 1)
  | [] => none

/-- Whether a line starts with the marker of a document's start or end. -/
def atDocumentMarker (c : Cursor) : Bool :=
  c.column == 0 && match c.rest with
    | '-' :: '-' :: '-' :: rest => atSpace rest
    | '.' :: '.' :: '.' :: rest => atSpace rest
    | _ => false

end Cursor
end Manifests.Yaml
