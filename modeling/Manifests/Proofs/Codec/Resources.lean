import Manifests.Collection
import Manifests.Proofs.Codec.Records

/-!
Manifests are read back as they were written.  Which kind a manifest is read as depends on its
member `kind` alone, and the members of the kind are looked up apart from those in front of them.
-/
namespace Manifests

open Coded

namespace Json

lemma lookup?_append (m m' : List (String × Json)) (key : String) :
    lookup? (m ++ m') key = (lookup? m' key).or (lookup? m key) := by
  unfold lookup?
  rw [List.reverse_append, List.find?_append, Option.map_or]

variable {α : Type} [Coded α]

lemma lookup?_required (key key' : String) (a : α) :
    lookup? (required key a) key' = if key = key' then some (encode a) else none :=
  find?_required key key' a

lemma lookup?_optional (key key' : String) (a : Option α) :
    lookup? (optional key a) key' = if key = key' then a.map encode else none := by
  cases a with
  | none => exact find?_optional key key' none
  | some a => exact find?_optional key key' (some a)

end Json

namespace Resource

/-- The members of the manifest of a resource. -/
def members (r : Resource) : List (String × Json) :=
  required "apiVersion" r.content.apiVersion ++ required "kind" r.kind.name ++
    required "metadata" r.metadata ++ r.content.members

variable (r : Resource)

lemma toJson_eq : r.toJson = .object r.members := rfl

lemma get?_kind_toJson : r.toJson.get? "kind" = some (.string r.kind.name) := by
  have hmembers : Json.lookup? r.content.members "kind" = none := by
    cases r.content <;> simp [Content.members, Json.lookup?_append, Json.lookup?_optional]
  rw [toJson_eq, Json.get?, members, Json.lookup?_append, hmembers, Json.lookup?_append,
    Json.lookup?_append, Json.lookup?_required, Json.lookup?_required]
  rfl

lemma find?_apiVersion_members :
    find? r.members "apiVersion" = some (.string r.content.apiVersion) := by
  simp only [members, find?_append, find?_required]
  rfl

lemma find?_metadata_members : find? r.members "metadata" = some (encode r.metadata) := by
  simp [members]

lemma versionFits_members (h : r.kind ≠ .deploymentConfig) :
    Content.versionFits r.kind r.members = true := by
  have hversion : r.content.apiVersion = r.kind.apiVersion := by
    unfold kind at h ⊢
    cases hcontent : r.content with
    | deploymentConfig => exact absurd (hcontent ▸ rfl) h
    | _ => rfl
  rw [Content.versionFits, find?_apiVersion_members, hversion]
  exact beq_self_eq_true _

lemma ofMembers?_content : Content.ofMembers? r.kind r.members = some r.content := by
  obtain ⟨metadata, content⟩ := r
  cases content <;>
    simp [members, kind, Content.kind, Content.ofMembers?, Content.version?, Content.members,
      Content.apiVersion]

lemma ofMembers?_members : ofMembers? r.kind r.members = some r := by
  have hcontent := r.ofMembers?_content
  unfold ofMembers?
  split
  next =>
    rw [given?_eq, find?_metadata_members, ofGiven_encode, hcontent]
    rfl
  next h =>
    rw [if_pos (r.versionFits_members h), required?_eq, find?_metadata_members, ofRequired_encode,
      hcontent]
    rfl

theorem ofJson_toJson : ofJson r.toJson = .ok r := by
  unfold ofJson
  rw [get?_kind_toJson, toJson_eq]
  simp only [Kind.ofName?_name, ofMembers?_members]

end Resource

/-- Reading undoes writing: for every resource, for the items of the list that a collection is
written as, and so for whatever a manifest was read as. -/
theorem decode_encode_manifests :
    (∀ r : Resource, Resource.ofJson r.toJson = .ok r) ∧
    (∀ c : Collection, ∃ items, c.toJson.get? "items" = some (.array items) ∧
      items.mapM Resource.ofJson = .ok c) ∧
    ∀ value : Json, (do let r ← Resource.ofJson value; Resource.ofJson r.toJson) =
      Resource.ofJson value := by
  refine ⟨Resource.ofJson_toJson, fun c => ⟨c.map Resource.toJson, rfl, ?_⟩, fun value => ?_⟩
  · exact mapM_map_of_inverse Resource.ofJson_toJson c
  · cases Resource.ofJson value with
    | error e => rfl
    | ok r => exact r.ofJson_toJson

end Manifests
