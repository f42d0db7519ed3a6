import Manifests.Text.Hexadecimal
import Manifests.Toml.Scan

/-!
Texts of TOML: between double quotes with escapes, between single quotes without, and both over
several lines between tripled quotes.
-/
namespace Manifests.Toml.Text

open Scan

/-- The character of a code point with so many hexadecimal digits. -/
def codePoint : Nat → Nat → Scan Char
  | n, 0 => if n.isValidChar then return Char.ofNat n else failure
  | n, digits + 1 => do
    match Manifests.Text.hexDigit? (← char) with
    | some d => codePoint (n * 16 + d) digits
    | none => failure

/-- What stands behind the backslash of an escape. -/
def escaped : Scan Char := do
  match ← char with
  | 'b' => return Char.ofNat 8
  | 't' => return '\t'
  | 'n' => return '\n'
  | 'f' => return Char.ofNat 12
  | 'r' => return '\r'
  | '"' => return '"'
  | '\\' => return '\\'
  | 'u' => codePoint 0 4
  | 'U' => codePoint 0 8
  | _ => failure

/-- One character of a text on one line. -/
def basicChar : Scan Char := do
  match ← char with
  | '"' => failure
  | '\\' => escaped
  | c => if isTextChar c then return c else failure

/-- The rest of a text behind its opening quote. -/
def basic : Scan (List Char) := do
  let cs ← many basicChar
  expect "\""
  return cs

def literal : Scan (List Char) := do
  let cs ← span fun c => isTextChar c && c ≠ '\''
  expect "'"
  return cs

/-- A line break that a backslash takes away, with all white space that follows. -/
def joined : Scan Unit := do
  expect "\\"
  blanks
  newline
  let _ ← many (newline <|> do
    unless isBlank (← char) do failure)

/-- A piece of a text over several lines that holds no quote. -/
def piece (isLiteral : Bool) : Scan (List Char) :=
  (do newline; return ['\n']) <|>
  (if isLiteral then do
    let c ← char
    if isTextChar c && c ≠ '\'' then return [c] else failure
  else
    (do joined; return []) <|> (do return [← basicChar]))

/-- One or two quotes that a piece follows. -/
def quotes (isLiteral : Bool) : Scan (List Char) := do
  let quote := if isLiteral then '\'' else '"'
  let run ← span (· = quote)
  if run.length = 1 ∨ run.length = 2 then
    return run ++ (← piece isLiteral)
  else failure

/-- The rest of a text over several lines.  At its end two more quotes than the closing three belong
to the text, and a line break at its start does not. -/
def lines (isLiteral : Bool) : Scan (List Char) := do
  let quote := if isLiteral then '\'' else '"'
  newline <|> pure ()
  let pieces ← many (piece isLiteral <|> quotes isLiteral)
  let run ← span (· = quote)
  if run.length < 3 ∨ 5 < run.length then failure
  else return pieces.flatten ++ run.drop 3

/-- A text of any form. -/
def any : Scan String := do
  if ← accept "\"\"\"" then return String.ofList (← lines false)
  else if ← accept "\"" then return String.ofList (← basic)
  else if ← accept "'''" then return String.ofList (← lines true)
  else do
    expect "'"
    return String.ofList (← literal)

example : (any.run "\"a\\u00e9\" x".toList).map (·.1) = some "aé" := by decide +kernel
example : (any.run "'''\na\"'b''''".toList).map (·.1) = some "a\"'b'" := by decide +kernel

end Manifests.Toml.Text
