import Manifests.KeyedList
import Manifests.Object.Metadata

/-!
Laying an override over a value.  Entries of the override replace or add, an empty entry removes,
and what the override does not mention stays.
-/
namespace Manifests
namespace Overlay

variable {α : Type}

/-- One entry of an override: it removes its key if it is empty and is inserted otherwise. -/
def entry (isEmpty : α → Bool) (base : SortedMap α) (key : String) (value : α) : SortedMap α :=
  if isEmpty value then base.erase key else base.insert key value

/-- An optional map under an optional override.  Nothing comes of an absent map under entries that
only remove. -/
def entries (isEmpty : α → Bool) (base patch : Option (SortedMap α)) : Option (SortedMap α) :=
  match patch with
  | none => base
  | some patch =>
    let result := patch.toList.foldl (fun m e => entry isEmpty m e.1 e.2) (base.getD ∅)
    if base.isNone && result.isEmpty then none else some result

/-- Texts, where the empty one removes. -/
def texts (base patch : Option (SortedMap String)) : Option (SortedMap String) :=
  entries (· == "") base patch

end Overlay

def ObjectMeta.overlay (base patch : ObjectMeta) : ObjectMeta :=
  { base with
    labels := Overlay.texts base.labels patch.labels
    annotations := Overlay.texts base.annotations patch.annotations
    namespaceName := patch.namespaceName <|> base.namespaceName }

def LabelSelector.overlay (base patch : LabelSelector) : LabelSelector where
  matchLabels := Overlay.texts base.matchLabels patch.matchLabels
  matchExpressions := patch.matchExpressions <|> base.matchExpressions

end Manifests
