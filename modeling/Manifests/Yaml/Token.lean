import Manifests.Yaml.Tag
import Manifests.Yaml.Text

/-!
The tokens of a YAML text.  Outside of brackets the columns of lines open and close block
collections; a key shows only at its colon and is then marked where it began.
-/
namespace Manifests.Yaml

inductive Token where
  | directive (d : Directive)
  | documentStart
  | documentEnd
  | blockSequenceStart
  | blockMappingStart
  | blockEnd
  | flowSequenceStart
  | flowSequenceEnd
  | flowMappingStart
  | flowMappingEnd
  | blockEntry
  | flowEntry
  | key
  | value
  | anchor (name : String)
  | alias_ (name : String)
  | tag (handle suffix : String)
  | scalar (style : Style) (text : String)
  deriving Repr, DecidableEq

/-- What may turn out to be a key: the number of its first token and where that begins.  At the
column of its block it has to be one. -/
structure KeyCandidate where
  required : Bool
  number : Nat
  bytes : Nat
  line : Nat
  column : Nat
  deriving Repr, DecidableEq

/-- A text on its way to tokens, the last token first.  Every open bracket has its own candidate
for a key, and so has the block around them. -/
structure Lexer where
  cursor : Cursor
  columns : List Nat
  keyAllowed : Bool
  candidate : Option KeyCandidate
  outer : List (Option KeyCandidate)
  tokens : List Token
  count : Nat

namespace Lexer

def start (cs : List Char) : Lexer := ⟨.start cs, [], true, none, [], [], 0⟩

/-- Whether a bracket is open. -/
def inFlow (s : Lexer) : Bool := !s.outer.isEmpty

/-- The column that the text of a block has to reach. -/
def indent (s : Lexer) : Nat :=
  match s.columns with
  | column :: _ => column + 1
  | [] => 0

def emit (s : Lexer) (t : Token) : Lexer := { s with tokens := t :: s.tokens, count := s.count + 1 }

/-- Goes on behind `n` characters. -/
def advance (s : Lexer) (n : Nat) : Lexer := { s with cursor := s.cursor.advance n }

/-- Puts a token in front of the token of a number. -/
def insertAt (s : Lexer) (number : Nat) (t : Token) : Lexer :=
  let after := s.count - number
  { s with tokens := s.tokens.take after ++ t :: s.tokens.drop after, count := s.count + 1 }

/-- Opens a block collection at a column that is deeper than the present one. -/
def openBlock (s : Lexer) (column number : Nat) (t : Token) : Lexer :=
  if s.inFlow || column < s.indent then s
  else { s.insertAt number t with columns := column :: s.columns }

/-- Closes the blocks deeper than a column, or all of them. -/
def closeBlocks (s : Lexer) (column : Option Nat) : Lexer :=
  if s.inFlow then s
  else
    let deeper (n : Nat) : Bool := match column with
      | some column => column < n
      | none => true
    let closed := s.columns.takeWhile deeper
    { s with
      columns := s.columns.dropWhile deeper
      tokens := closed.map (fun _ => Token.blockEnd) ++ s.tokens
      count := s.count + closed.length }

/-- Gives up the candidate, unless it has to be a key. -/
def dropCandidate (s : Lexer) : Option Lexer :=
  match s.candidate with
  | some k => if k.required then none else some { s with candidate := none }
  | none => some s

/-- Notes that a key may begin here. -/
def noteCandidate (s : Lexer) : Option Lexer :=
  if s.keyAllowed then do
    let s ← s.dropCandidate
    let c := s.cursor
    let required := !s.inFlow && s.columns.head? == some c.column
    return { s with candidate := some ⟨required, s.count, c.bytes, c.line, c.column⟩ }
  else some s

/-- A key is at most one line and 1024 bytes long. -/
def isStale (c : Cursor) (k : KeyCandidate) : Bool := k.line < c.line || k.bytes + 1024 < c.bytes

def refresh (c : Cursor) : Option KeyCandidate → Option (Option KeyCandidate)
  | some k => if isStale c k then if k.required then none else some none else some (some k)
  | none => some none

/-- Gives up the candidates that are too far back to be keys. -/
def refreshAll (s : Lexer) : Option Lexer := do
  let candidate ← refresh s.cursor s.candidate
  let outer ← s.outer.mapM (refresh s.cursor)
  return { s with candidate, outer }

/-- Skips white space, comments and the byte order mark that a line may start with.  A tab at the
start of a block line is not white space. -/
def skipSpace : Nat → Lexer → Lexer
  | 0, s => s
  | fuel + 1, s =>
    let c := s.cursor
    let c := if c.column = 0 && c.rest.head? = some '\uFEFF' then c.advance 1 else c
    let c := c.skip fun b => b = ' ' || (b = '\t' && (s.inFlow || !s.keyAllowed))
    let c := if c.rest.head? = some '#' then c.skip (!isBreak ·) else c
    match c.break? with
    | some (_, c) => skipSpace fuel { s with cursor := c, keyAllowed := s.keyAllowed || !s.inFlow }
    | none => { s with cursor := c }

def directive (s : Lexer) : Option Lexer := do
  let s ← (s.closeBlocks none).dropCandidate
  let (d, c) ← Directive.read? (s.cursor.advance 1)
  return { s with cursor := c, keyAllowed := false }.emit (.directive d)

def documentMarker (s : Lexer) : Option Lexer := do
  let s ← (s.closeBlocks none).dropCandidate
  let t := if s.cursor.rest.head? = some '-' then Token.documentStart else .documentEnd
  return ({ s with keyAllowed := false }.emit t).advance 3

def openFlow (s : Lexer) (t : Token) : Option Lexer := do
  let s ← s.noteCandidate
  let s := { s with outer := s.candidate :: s.outer, candidate := none, keyAllowed := true }
  return (s.emit t).advance 1

def closeFlow (s : Lexer) (t : Token) : Option Lexer := do
  let s ← s.dropCandidate
  let s := match s.outer with
    | candidate :: outer => { s with candidate, outer }
    | [] => s
  return ({ s with keyAllowed := false }.emit t).advance 1

def flowEntry (s : Lexer) : Option Lexer := do
  let s ← s.dropCandidate
  return ({ s with keyAllowed := true }.emit .flowEntry).advance 1

def blockEntry (s : Lexer) : Option Lexer := do
  guard (s.inFlow ∨ s.keyAllowed)
  let s ← (s.openBlock s.cursor.column s.count .blockSequenceStart).dropCandidate
  return ({ s with keyAllowed := true }.emit .blockEntry).advance 1

def explicitKey (s : Lexer) : Option Lexer := do
  guard (s.inFlow ∨ s.keyAllowed)
  let s ← (s.openBlock s.cursor.column s.count .blockMappingStart).dropCandidate
  return ({ s with keyAllowed := !s.inFlow }.emit .key).advance 1

/-- A colon: it makes the candidate a key, or stands alone in front of a value. -/
def value (s : Lexer) : Option Lexer :=
  match s.candidate with
  | some k =>
    let s := (s.insertAt k.number .key).openBlock k.column k.number .blockMappingStart
    some (({ s with candidate := none, keyAllowed := false }.emit .value).advance 1)
  | none => do
    guard (s.inFlow ∨ s.keyAllowed)
    let s := s.openBlock s.cursor.column s.count .blockMappingStart
    return ({ s with keyAllowed := !s.inFlow }.emit .value).advance 1

def anchorOrAlias (s : Lexer) (t : String → Token) : Option Lexer := do
  let s ← s.noteCandidate
  let (name, c) ← anchorName? (s.cursor.advance 1)
  return { s with cursor := c, keyAllowed := false }.emit (t name)

def tag (s : Lexer) : Option Lexer := do
  let s ← s.noteCandidate
  let (handle, suffix, c) ← Tag.read? s.inFlow s.cursor
  return { s with cursor := c, keyAllowed := false }.emit (.tag handle suffix)

def block (s : Lexer) (isFolded : Bool) : Option Lexer := do
  let s ← s.dropCandidate
  let (text, c) ← Block.read? isFolded s.columns.head? (s.cursor.advance 1)
  let style := if isFolded then Style.folded else .literal
  return { s with cursor := c, keyAllowed := true }.emit (.scalar style (String.ofList text))

def quoted (s : Lexer) (single : Bool) : Option Lexer := do
  let s ← s.noteCandidate
  let (text, c) ← Quoted.read? single (s.cursor.advance 1)
  return { s with cursor := c, keyAllowed := false }.emit (.scalar .quoted (String.ofList text))

def plain (s : Lexer) : Option Lexer := do
  let s ← s.noteCandidate
  let (text, broken, c) ← Plain.read? s.inFlow s.indent s.cursor
  return { s with cursor := c, keyAllowed := broken }.emit (.scalar .plain (String.ofList text))

/-- The characters that no plain text starts with, or only before another character. -/
def isIndicator (c : Char) : Bool := "-?:,[]\x7b\x7d#&*!|>'\"%@`".toList.contains c

/-- Whether a plain text can start with a character; `next` is what follows it. -/
def startsPlain (s : Lexer) (c : Char) (next : List Char) : Bool :=
  !(atSpace [c] || isIndicator c) ||
    (c = '-' && !(next.head?.map isBlank).getD false) ||
    (!s.inFlow && (c = '?' || c = ':') && !atSpace next)

/-- Reads the next token, which begins with the character `c`. -/
def next (s : Lexer) (c : Char) (rest : List Char) : Option Lexer :=
  if s.cursor.column = 0 && c = '%' then s.directive
  else if s.cursor.atDocumentMarker then s.documentMarker
  else if c = '[' then s.openFlow .flowSequenceStart
  else if c = '\x7b' then s.openFlow .flowMappingStart
  else if c = ']' then s.closeFlow .flowSequenceEnd
  else if c = '\x7d' then s.closeFlow .flowMappingEnd
  else if c = ',' then s.flowEntry
  else if c = '-' && atSpace rest then s.blockEntry
  else if c = '?' && (s.inFlow || atSpace rest) then s.explicitKey
  else if c = ':' && (s.inFlow || atSpace rest) then s.value
  else if c = '*' then s.anchorOrAlias .alias_
  else if c = '&' then s.anchorOrAlias .anchor
  else if c = '!' then s.tag
  else if c = '|' && !s.inFlow then s.block false
  else if c = '>' && !s.inFlow then s.block true
  else if c = '\'' then s.quoted true
  else if c = '"' then s.quoted false
  else if s.startsPlain c rest then s.plain
  else none

/-- All tokens from here to the end of the text. -/
def finish : Nat → Lexer → Option (List Token)
  | 0, _ => none
  | fuel + 1, s => do
    let s ← (skipSpace (s.cursor.rest.length + 1) s).refreshAll
    let s := s.closeBlocks (some s.cursor.column)
    match s.cursor.rest with
    | [] => do
      let s ← (s.closeBlocks none).dropCandidate
      return s.tokens.reverse
    | c :: rest => finish fuel (← s.next c rest)

end Lexer

/-- The tokens of a text without characters that it may not hold. -/
def Token.ofText? (text : String) : Option (List Token) := do
  let cs := text.toList
  guard (cs.all isAllowed)
  Lexer.finish (cs.length + 2) (Lexer.start cs)

end Manifests.Yaml
