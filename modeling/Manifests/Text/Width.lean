import Manifests.Text.CodePoint
import Manifests.Text.Width.Tables

/-!
How many columns a text takes where all characters are set in a grid.  Neighbours may share one
shape, so a text is measured from its end, and each character is told what stands behind it.
-/
namespace Manifests.Text
namespace Width

/-- What stands behind a character, as far as the two can share a shape.  In front of a `joined`
shape stands a zero-width joiner. -/
inductive Shape where
  | plain
  | lineFeed
  | emoji
  | skinTone
  | regional
  | regionals
  | joinedEmoji
  | joinedKeycap
  | joinedRegional
  | joinedEvenRegionals
  | joinedOddRegionals
  | joinedTags (letters digits : Nat)
  | alef
  | lamed (joined : Bool)
  | ya (joined : Bool)
  | vowelAndYa
  | consonant (joined : Bool)
  | joinerAndConsonant
  | lowTone
  | orkhonI (joined : Bool)
  | coengLetter
  | vowelE
  | vowelAi
  deriving DecidableEq

namespace Shape

/-- Whether letters of one script share the shape. -/
def isLigature : Shape → Bool
  | alef | lamed _ | ya _ | vowelAndYa | consonant _ | joinerAndConsonant | lowTone | orkhonI _
  | coengLetter | vowelE | vowelAi => true
  | _ => false

def isJoinedEmoji : Shape → Bool
  | joinedEmoji | joinedKeycap => true
  | _ => false

/-- A shape with a zero-width joiner in front, for letters. -/
def join : Shape → Shape
  | lamed _ => lamed true
  | ya _ => ya true
  | consonant _ => consonant true
  | orkhonI _ => orkhonI true
  | s => s

end Shape

/-- A shape and the selectors in front of it: for emoji, for text, or for full width. -/
structure Behind where
  shape : Shape
  asEmoji : Bool
  asText : Bool
  asWide : Bool
  deriving DecidableEq

namespace Behind

def ofShape (s : Shape) : Behind := ⟨s, false, false, false⟩

def selectEmoji (b : Behind) : Behind :=
  if b.shape.isLigature ∨ b.shape.isJoinedEmoji then { b with asEmoji := true }
  else ⟨.plain, true, false, false⟩

def selectText (b : Behind) : Behind :=
  if b.shape.isLigature then { b with asText := true } else ⟨.plain, false, true, false⟩

def selectWide (b : Behind) : Behind :=
  if b.shape.isLigature then { b with asWide := true } else ⟨.plain, false, false, true⟩

/-- What is left where the emoji selector does not apply. -/
def dropEmoji (b : Behind) : Behind :=
  if b.shape.isLigature then { b with asEmoji := false } else ofShape .plain

end Behind

def isTagLetter (n : Nat) : Bool := 0xE0061 ≤ n && n ≤ 0xE007A

def isTagDigit (n : Nat) : Bool := 0xE0030 ≤ n && n ≤ 0xE0039

def isRegional (n : Nat) : Bool := 0x1F1E6 ≤ n && n ≤ 0x1F1FF

def isSkinTone (n : Nat) : Bool := 0x1F3FB ≤ n && n ≤ 0x1F3FF

def isEmoji (n : Nat) : Bool := inRanges emojiRanges n && !isSkinTone n

def isAlef (n : Nat) : Bool :=
  inRanges [(0x622, 0x623), (0x625, 0x625), (0x627, 0x627), (0x671, 0x673), (0x675, 0x675),
    (0x773, 0x774), (0x870, 0x882)] n

def isLam (n : Nat) : Bool :=
  inRanges [(0x644, 0x644), (0x6B5, 0x6B8), (0x76A, 0x76A), (0x8A6, 0x8A6), (0x8C7, 0x8C7)] n

def isConsonant (n : Nat) : Bool := (0x2D31 ≤ n && n ≤ 0x2D65) || n == 0x2D6F

def isCoengLetter (n : Nat) : Bool :=
  inRanges [(0x1780, 0x1782), (0x1784, 0x1787), (0x1789, 0x178C), (0x178E, 0x1793),
    (0x1795, 0x1798), (0x179B, 0x179D), (0x17A0, 0x17A0), (0x17A2, 0x17A2), (0x17A7, 0x17A7),
    (0x17AB, 0x17AC), (0x17AF, 0x17AF)] n

/-- Marks that are not shown and that no letters of a shape mind between them. -/
def isUnseenMark (n : Nat) : Bool :=
  inRanges [(0x34F, 0x34F), (0x17B4, 0x17B5), (0x180B, 0x180D), (0x180F, 0x180F),
    (0xFE00, 0xFE0F), (0xE0100, 0xE01EF)] n

def isQuote (n : Nat) : Bool := n == 0x2018 || n == 0x2019 || n == 0x201C || n == 0x201D

/-- The columns of a character that shares no shape. -/
def columns (n : Nat) : Nat :=
  if n < 0xA0 then 1
  else if n = 0x17D8 then 3
  else if inRanges zeroRanges n then 0
  else if inRanges wideRanges n then 2 else 1

/-- The shape that begins with a character. -/
def shape (n : Nat) : Shape :=
  if isAlef n then .alef
  else if n = 0x5DC then .lamed false
  else if isCoengLetter n then .coengLetter
  else if n = 0x1A10 then .ya false
  else if isConsonant n then .consonant false
  else if n = 0xA4FC ∨ n = 0xA4FD then .lowTone
  else if n = 0x10C03 then .orkhonI false
  else if n = 0x16D67 then .vowelE
  else if n = 0x16D68 then .vowelAi
  else if isRegional n then .regional
  else if isSkinTone n then .skinTone
  else if isEmoji n then .emoji
  else .plain

def isTransparent (n : Nat) : Bool := columns n == 0 && !inRanges solidZeroRanges n

/-- What a character adds to the columns of a shape that it becomes a part of, and the shape of
both. -/
def extend? (s : Shape) (n : Nat) : Option (Int × Shape) :=
  match s with
  | .alef => if isLam n then some (0, .plain) else if isTransparent n then some (0, .alef) else none
  | .lamed true => if n = 0x5D0 then some (0, .plain) else none
  | .coengLetter => if n = 0x17D2 then some (-1, .plain) else none
  | .ya true => if n = 0x1A17 then some (0, .vowelAndYa) else none
  | .vowelAndYa => if n = 0x1A15 then some (0, .plain) else none
  | .consonant joined =>
    if n = 0x2D7F then some (1, .joinerAndConsonant)
    else if joined && isConsonant n then some (0, .plain) else none
  | .joinerAndConsonant => if isConsonant n then some (-1, .plain) else none
  | .lowTone => if 0xA4F8 ≤ n ∧ n ≤ 0xA4FB then some (0, .plain) else none
  | .orkhonI true => if n = 0x10C32 then some (0, .plain) else none
  | .vowelE =>
    if n = 0x16D63 ∨ n = 0x16D69 then some (0, .plain)
    else if n = 0x16D67 then some (0, .vowelAi)
    else if n = 0x16D68 then some (1, .vowelE) else none
  | .vowelAi => if n = 0x16D63 then some (0, .plain) else none
  | .skinTone =>
    if inRanges skinRanges n then some (0, .emoji)
    else if n = 0x200D then some (0, .joinedEmoji) else none
  | .emoji => if n = 0x200D then some (0, .joinedEmoji) else none
  | .regional => if isRegional n then some (1, .regionals) else none
  | .regionals =>
    if isRegional n then some (1, .regionals)
    else if n = 0x200D then some (0, .joinedEmoji) else none
  | .joinedEmoji =>
    if n = 0x20E3 then some (0, .joinedKeycap)
    else if isRegional n then some (1, .joinedRegional)
    else if isSkinTone n then some (0, .skinTone)
    else if n = 0xE007F then some (0, .joinedTags 0 0)
    else if isEmoji n then some (0, .emoji) else none
  | .joinedRegional => if isRegional n then some (-1, .joinedEvenRegionals) else none
  | .joinedEvenRegionals =>
    if isRegional n then some (3, .joinedOddRegionals)
    else if n = 0x200D then some (0, .joinedEmoji) else none
  | .joinedOddRegionals =>
    if isRegional n then some (-1, .joinedEvenRegionals)
    else if n = 0x200D then some (0, .joinedEmoji) else none
  | .joinedTags letters digits =>
    if isTagLetter n ∧ digits = 0 ∧ letters < 6 then some (0, .joinedTags (letters + 1) 0)
    else if isTagDigit n ∧ digits < 3 ∧ (digits ≠ 0 ∨ letters ≤ 4) then
      some (0, .joinedTags letters (digits + 1))
    else if n = 0x1F3F4 ∧ (digits = 3 ∨ (digits = 0 ∧ 3 ≤ letters)) then some (0, .emoji)
    else none
  | _ => none

/-- What a character beyond the controls adds, once selectors in front of it are resolved. -/
def stepShape (n : Nat) (s : Shape) : Int × Behind :=
  if s.isLigature && s != .alef && (n == 0x200D || isUnseenMark n) then
    (0, .ofShape (if n = 0x200D then s.join else s))
  else match extend? s n with
    | some (add, s) => (add, .ofShape s)
    | none => (columns n, .ofShape (shape n))

/-- What a character beyond the controls adds when no emoji selector applies to it. -/
def stepText (n : Nat) (b : Behind) : Int × Behind :=
  if n = 0xFE0F then (0, b.selectEmoji)
  else if n = 0xFE0E then (0, b.selectText)
  else if n = 0xFE01 then (0, b.selectWide)
  else if b.asText && inRanges textStyledRanges n then (1, .ofShape .plain)
  else if b.asWide && !b.asText && isQuote n then (2, .ofShape .plain)
  else stepShape n b.shape

/-- The columns that a character adds to what stands behind it, and what then stands there. -/
def step (c : Char) (b : Behind) : Int × Behind :=
  let n := c.toNat
  if b.asEmoji && inRanges styledRanges n then
    (if b.shape.isJoinedEmoji then 0 else 2, .ofShape .emoji)
  else
    let b := if b.asEmoji then b.dropEmoji else b
    if c = '\n' then (1, .ofShape .lineFeed)
    else if c = '\r' ∧ b = .ofShape .lineFeed then (0, .ofShape .plain)
    else if n ≤ 0xA0 then (1, .ofShape .plain)
    else stepText n b

end Width

def width (cs : List Char) : Nat :=
  let sum := cs.foldr (fun c (sum, behind) =>
    let (add, behind) := Width.step c behind
    (sum + add, behind)) ((0, .ofShape .plain) : Int × Width.Behind)
  sum.1.toNat

example : width "日本語".toList = 6 := by decide +kernel
example : width "cafe\u0301".toList = 4 := by decide +kernel
example : width "⌚\uFE0E❤\uFE0F".toList = 3 := by decide +kernel

end Manifests.Text
