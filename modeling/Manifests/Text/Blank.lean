/-!
Blank characters are those with the property White_Space.  Trimming removes them from both ends
of a text, and a blank text has nothing else.
-/
namespace Manifests.Text

/-- The white space of Unicode: the ASCII blanks and line breaks, the next-line control, and the
spaces and separators beyond ASCII. -/
def isBlankChar (c : Char) : Bool :=
  let n := c.toNat
  (9 ≤ n && n ≤ 13) || n == 0x20 || n == 0x85 || n == 0xA0 || n == 0x1680 ||
    (0x2000 ≤ n && n ≤ 0x200A) || n == 0x2028 || n == 0x2029 || n == 0x202F || n == 0x205F ||
    n == 0x3000

/-- Removes the leading characters that satisfy `p`, and the trailing ones. -/
def trimWhere (p : Char → Bool) (cs : List Char) : List Char :=
  ((cs.dropWhile p).reverse.dropWhile p).reverse

def trimChars (cs : List Char) : List Char := trimWhere isBlankChar cs

def trim (s : String) : String := String.ofList (trimChars s.toList)

def isBlank (s : String) : Bool := s.toList.all isBlankChar

/-- The trimmed text, unless nothing is left of it. -/
def nonBlank? (s : String) : Option String :=
  let t := trim s
  if t = "" then none else some t

theorem trimWhere_eq_nil_iff {p : Char → Bool} {cs : List Char} :
    trimWhere p cs = [] ↔ cs.all p = true := by
  have hdrop : ∀ {l : List Char}, l.dropWhile p = [] ↔ ∀ c ∈ l, p c = true := by
    intro l
    induction l with
    | nil => simp
    | cons c l ih => by_cases h : p c <;> simp [h, ih]
  rw [trimWhere, List.reverse_eq_nil_iff, hdrop, List.all_eq_true]
  simp only [List.mem_reverse]
  constructor
  · intro h
    -- what is left begins with a character that is kept, so nothing is left
    cases hl : cs.dropWhile p with
    | nil => exact hdrop.mp hl
    | cons c l =>
      have hnot := List.head?_dropWhile_not p cs
      rw [hl] at h hnot
      simp [h c List.mem_cons_self] at hnot
  · intro h c hc
    exact h c ((List.dropWhile_sublist p).mem hc)

theorem isSome_nonBlank? (s : String) : (nonBlank? s).isSome = !isBlank s := by
  have htrim : trim s = "" ↔ isBlank s = true := by
    rw [trim, isBlank, ← trimWhere_eq_nil_iff (p := isBlankChar), ← trimChars]
    exact ⟨fun h => by simpa using congrArg String.toList h, fun h => by rw [h]⟩
  unfold nonBlank?
  by_cases h : trim s = ""
  · simp [h, htrim.mp h]
  · simp [h, Bool.eq_false_iff.mpr (mt htrim.mpr h)]

example : trim " a b\t" = "a b" := by decide
example : isBlank " \t" = true := by decide
example : nonBlank? " \n" = none := by decide

end Manifests.Text
