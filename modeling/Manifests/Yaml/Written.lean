import Manifests.Yaml.Cursor
import Manifests.Yaml.Value

/-!
Texts as YAML scalars are written: plain where that reads back, in quotes where it does not, and as
a literal block if there are several lines.
-/
namespace Manifests.Yaml

/-- The styles of written scalars. -/
inductive Form where
  | plain
  | single
  | double
  | literal
  deriving Repr, DecidableEq

/-- The characters that are written as they are. -/
def isPrintable (c : Char) : Bool :=
  let n := c.toNat
  n == 10 || (0x20 ≤ n && n ≤ 0x7E) || (0xA0 ≤ n && n ≤ 0xFFFD && n != 0xFEFF) || 0x10000 ≤ n

/-- Whether a character of one kind is followed by one of another. -/
def hasPair (first second : Char → Bool) : List Char → Bool
  | a :: b :: rest => (first a && second b) || hasPair first second (b :: rest)
  | _ => false

def isSpace (c : Char) : Bool := c = ' '

def endsInBreak (cs : List Char) : Bool := (cs.getLast?.map isBreak).getD false

/-- The characters that no plain text starts with. -/
def indicators : List Char :=
  ['#', ',', '[', ']', '\x7b', '\x7d', '&', '*', '!', '|', '>', '\'', '"', '%', '@', '\x60']

/-- Whether a line would start a mark of the block structure or of a document. -/
def startsMark : List Char → Bool
  | '-' :: '-' :: '-' :: _ => true
  | '.' :: '.' :: '.' :: _ => true
  | c :: rest =>
    indicators.contains c ||
      ((c = '?' || c = ':' || c = '-') && (rest.head?.map isSpace).getD true)
  | [] => false

namespace Form

/-- Whether a text reads back when nothing encloses it. -/
def fitsPlain (cs : List Char) : Bool :=
  cs.all (fun c => isPrintable c && !isBreak c) && !startsMark cs &&
    !(cs.head?.map isSpace).getD true && !(cs.getLast?.map isSpace).getD true &&
    !hasPair (· = ':') isSpace cs && cs.getLast? != some ':' && !hasPair isSpace (· = '#') cs

/-- Whether a text reads back between single quotes. -/
def fitsSingle (cs : List Char) : Bool :=
  cs.all isPrintable && !hasPair isSpace isBreak cs && !hasPair isBreak isSpace cs

/-- Whether a text reads back as a literal block. -/
def fitsLiteral (cs : List Char) : Bool :=
  cs.all isPrintable && !hasPair isSpace isBreak cs && cs.getLast? != some ' '

/-- Whether a plain text would be read as something else than a text. -/
def isOtherWord (s : String) : Bool :=
  if Word.isZeroPadded s.toList || ((Word.integer? s).bind integerValue?).isSome then true
  else match wordValue? s with
    | some (.string _) => false
    | _ => true

/-- The form of a text; only several lines ask for a literal block. -/
def ofText (s : String) : Form :=
  let cs := s.toList
  if cs.contains '\n' then if fitsLiteral cs then literal else double
  else if !isOtherWord s && fitsPlain cs then plain
  else if fitsSingle cs then single else double

end Form

def upperHexDigit (n : Nat) : Char := if n < 10 then Char.ofNat (n + 48) else Char.ofNat (n + 55)

/-- The last `width` hexadecimal digits of a number. -/
def upperHex (n : Nat) : Nat → List Char
  | 0 => []
  | width + 1 => upperHex (n / 16) width ++ [upperHexDigit (n % 16)]

/-- Escapes of one letter. -/
def shortEscapes : List (Nat × Char) :=
  [(0, '0'), (7, 'a'), (8, 'b'), (9, 't'), (10, 'n'), (11, 'v'), (12, 'f'), (13, 'r'), (27, 'e'),
    (34, '"'), (92, '\\'), (0x85, 'N'), (0x2028, 'L'), (0x2029, 'P')]

/-- A character between double quotes. -/
def escape (c : Char) : List Char :=
  match shortEscapes.find? (·.1 == c.toNat) with
  | some (_, letter) => ['\\', letter]
  | none =>
    if isPrintable c then [c]
    else if c.toNat ≤ 0xFF then '\\' :: 'x' :: upperHex c.toNat 2
    else if c.toNat ≤ 0xFFFF then '\\' :: 'u' :: upperHex c.toNat 4
    else '\\' :: 'U' :: upperHex c.toNat 8

/-- Indents what stands behind a line break, and the start if that is a new line. -/
def indentLines (margin : List Char) (fresh : Bool) : List Char → List Char
  | [] => []
  | c :: rest =>
    if isBreak c then c :: indentLines margin true rest
    else (if fresh then margin else []) ++ c :: indentLines margin false rest

/-- The header of a literal block.  It tells the indentation where the block starts with white
space, and what happens to the break at the end. -/
def literalHeader (cs : List Char) : List Char :=
  let indentation := match cs with
    | c :: _ => if isSpace c || isBreak c then ['2'] else []
    | [] => []
  let chomping := match cs.reverse with
    | c :: rest =>
      if !isBreak c then ['-']
      else if (rest.head?.map isBreak).getD true then ['+'] else []
    | [] => ['-']
  '|' :: indentation ++ chomping

/-- A text as it is written in lines that continue at a margin. -/
def writtenText (margin : List Char) (s : String) : List Char :=
  let cs := s.toList
  match Form.ofText s with
  | .plain => cs
  | .single =>
    '\'' :: indentLines margin false (cs.flatMap fun c => if c = '\'' then [c, c] else [c]) ++
      (if endsInBreak cs then margin else []) ++ ['\'']
  | .double => '"' :: cs.flatMap escape ++ ['"']
  | .literal => literalHeader cs ++ '\n' :: indentLines margin true cs

/-- Whether a text can stand before a colon in one line. -/
def isSimpleKey (s : String) : Bool := s.utf8ByteSize ≤ 128 && !s.toList.any isBreak

example : Form.ofText "1.0.0" = .plain := by decide +kernel
example : Form.ofText "1.0" = .single := by decide +kernel
example : Form.ofText "a\tb" = .double := by decide +kernel
example : Form.ofText "a\nb" = .literal := by decide +kernel

end Manifests.Yaml
