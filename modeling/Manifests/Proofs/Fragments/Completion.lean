import Manifests.Proofs.Codec.Resources
import Manifests.Proofs.Fragments.FileNames
import Manifests.Proofs.Outcome

/-! The kind and the name that a fragment ends up with.  What its file name gives only fills in what
the fragment does not say itself. -/
namespace Manifests

open Coded

/-! ### Members of objects -/

namespace Json

variable {members : List (String × Json)}

lemma lookup?_cons (k key : String) (v : Json) (members : List (String × Json)) :
    lookup? ((k, v) :: members) key =
      (lookup? members key).or (if k = key then some v else none) := by
  rw [← List.singleton_append, lookup?_append]
  by_cases h : k = key <;> simp [lookup?, h]

lemma find?_cons (k key : String) (v : Json) (members : List (String × Json)) :
    find? ((k, v) :: members) key = if k = key then some v else find? members key := by
  by_cases h : k = key <;> simp [find?, h]

lemma lookup?_filter_ne (key key' : String) (members : List (String × Json)) :
    lookup? (members.filter (·.1 != key)) key' =
      if key = key' then none else lookup? members key' := by
  induction members with
  | nil => simp [lookup?]
  | cons e members ih =>
    obtain ⟨k, v⟩ := e
    by_cases hk : k = key
    · rw [List.filter_cons_of_neg (by simp [hk]), ih, lookup?_cons, hk]
      by_cases h : key = key' <;> simp [h]
    · rw [List.filter_cons_of_pos (by simp [hk]), lookup?_cons, ih, lookup?_cons]
      by_cases h : key = key'
      · simp [h ▸ hk, h]
      · simp [h]

lemma lookup?_setMember (key key' : String) (v : Json) (members : List (String × Json)) :
    lookup? (setMember members key v) key' =
      if key = key' then some v else lookup? members key' := by
  rw [setMember, lookup?_append, lookup?_filter_ne, lookup?_cons]
  by_cases h : key = key' <;> simp [h, lookup?]

lemma insertMember_eq (key : String) (v : Json) (members : List (String × Json)) :
    insertMember key v members = SortedMap.insertEntry key v members := by
  induction members with
  | nil => rfl
  | cons e members ih => rw [insertMember, SortedMap.insertEntry, ih]

lemma ascending_canonicalMembers {sorted : List (String × Json)}
    (h : sorted.Pairwise fun a b => a.1 < b.1) (members : List (String × Json)) :
    (canonicalMembers members sorted).Pairwise fun a b => a.1 < b.1 := by
  induction members generalizing sorted with
  | nil => exact h
  | cons e members ih =>
    rw [canonicalMembers, insertMember_eq]
    exact ih (SortedMap.pairwise_insertEntry _ _ h)

lemma find?_canonicalMembers (members sorted : List (String × Json)) (key : String) :
    find? (canonicalMembers members sorted) key =
      ((lookup? members key).map canonical).or (find? sorted key) := by
  induction members generalizing sorted with
  | nil => rfl
  | cons e members ih =>
    obtain ⟨k, v⟩ := e
    rw [canonicalMembers, ih, insertMember_eq, lookup?_cons, find?, SortedMap.find?_insertEntry]
    cases lookup? members key <;> by_cases h : k = key <;> simp [h, find?]

/-- Where keys ascend, the first member of a key is the last one. -/
lemma lookup?_eq_find? (h : members.Pairwise fun a b => a.1 < b.1) (key : String) :
    lookup? members key = find? members key := by
  induction members with
  | nil => rfl
  | cons e members ih =>
    obtain ⟨k, v⟩ := e
    obtain ⟨hall, hrest⟩ := List.pairwise_cons.mp h
    rw [lookup?_cons, find?_cons, ih hrest]
    by_cases hk : k = key
    · have hnone : find? members key = none := by
        rw [find?, List.find?_eq_none.mpr, Option.map_none]
        intro e he heq
        have hlt := hall e he
        rw [beq_iff_eq.mp heq, hk] at hlt
        exact String.lt_irrefl key hlt
      rw [hnone, if_pos hk, Option.none_or]
    · rw [if_neg hk, if_neg hk, Option.or_none]

lemma find?_canonical (members : List (String × Json)) (key : String) :
    find? (canonicalMembers members []) key = (lookup? members key).map canonical := by
  rw [find?_canonicalMembers]
  exact Option.or_none

lemma lookup?_canonical (members : List (String × Json)) (key : String) :
    lookup? (canonicalMembers members []) key = (lookup? members key).map canonical := by
  rw [lookup?_eq_find? (ascending_canonicalMembers .nil members), find?_canonical]

end Json

/-! ### Reading manifests -/

lemma Kind.name_of_ofName? {s : String} {kind : Kind} (h : ofName? s = some kind) :
    kind.name = s := by
  have hname := List.find?_some h
  rwa [beq_iff_eq] at hname

lemma Content.kind_of_ofMembers? {kind : Kind} {m : List (String × Json)} {content : Content}
    (h : Content.ofMembers? kind m = some content) : content.kind = kind := by
  cases kind with
  | deploymentConfig =>
    obtain ⟨_, _, h⟩ := Option.bind_eq_some_iff.mp h
    obtain ⟨_, _, h⟩ := Option.bind_eq_some_iff.mp h
    cases h
    rfl
  | secret =>
    simp only [Content.ofMembers?, Option.bind_eq_bind, Option.bind_eq_some_iff, Option.pure_def,
      Option.some.injEq] at h
    obtain ⟨_, _, _, _, _, _, _, _, rfl⟩ := h
    rfl
  | configMap =>
    simp only [Content.ofMembers?, Option.bind_eq_bind, Option.bind_eq_some_iff, Option.pure_def,
      Option.some.injEq] at h
    obtain ⟨_, _, _, _, _, _, rfl⟩ := h
    rfl
  | _ =>
    obtain ⟨_, _, rfl⟩ := Option.map_eq_some_iff.mp h
    rfl

namespace Resource

variable {kind : Kind} {m : List (String × Json)} {r : Resource} {value : Json}

/-- The metadata is read in one way, except that a deployment config has no null there. -/
lemma of_ofMembers? (h : ofMembers? kind m = some r) :
    r.kind = kind ∧ ofRequired (find? m "metadata") = some r.metadata := by
  unfold ofMembers? at h
  split at h
  next =>
    obtain ⟨metadata, hmetadata, h⟩ := Option.bind_eq_some_iff.mp h
    obtain ⟨content, hcontent, h⟩ := Option.bind_eq_some_iff.mp h
    cases h
    refine ⟨Content.kind_of_ofMembers? hcontent, ?_⟩
    rw [given?_eq] at hmetadata
    unfold ofGiven at hmetadata
    unfold ofRequired
    split at hmetadata
    next hnone =>
      rw [hnone]
      exact hmetadata
    next value hsome =>
      rw [hsome]
      cases value with
      | null => cases hmetadata
      | _ => exact hmetadata
  next =>
    split at h
    · obtain ⟨metadata, hmetadata, h⟩ := Option.bind_eq_some_iff.mp h
      obtain ⟨content, hcontent, h⟩ := Option.bind_eq_some_iff.mp h
      cases h
      exact ⟨Content.kind_of_ofMembers? hcontent, hmetadata⟩
    · cases h

lemma of_ofJson (h : ofJson (.object m) = .ok r) :
    Json.lookup? m "kind" = some (.string r.kind.name) ∧
      ofRequired (find? m "metadata") = some r.metadata := by
  unfold ofJson at h
  split at h
  next name hname =>
    split at h
    next kind m' hkind hm =>
      cases hm
      split at h
      next hr =>
        cases h
        obtain ⟨hrkind, hmetadata⟩ := of_ofMembers? hr
        rw [hrkind, Kind.name_of_ofName? hkind]
        exact ⟨hname, hmetadata⟩
      next => cases h
    next => cases h
  next => cases h

end Resource

lemma ObjectMeta.name_of_decode {m : List (String × Json)} {metadata : ObjectMeta}
    (h : decode (.object m) = some metadata) : optional? m "name" = some metadata.name := by
  change (optional? m "annotations" >>= fun _ => _) = _ at h
  -- Each of the eleven fields is read on its own.
  iterate 11 obtain ⟨_, _, h⟩ := Option.bind_eq_some_iff.mp h
  cases h
  assumption

/-! ### Completed fragments -/

namespace Fragment

variable {members : List (String × Json)} {metadata : Json} {kind name : String}

/-- The name that metadata gives, unless it is blank. -/
def nameIn? (metadata : Json) : Option String :=
  ((metadata.get? "name").bind textOf?).filter (!Text.isBlank ·)

/-- The name that a fragment gives itself. -/
def ownName? (members : List (String × Json)) : Option String :=
  (Json.lookup? members "metadata").bind nameIn?

/-- The kind that a fragment declares. -/
def declaredKind? (members : List (String × Json)) : Option String :=
  (Json.lookup? members "kind").bind textOf?

/-- The name that a fragment is to have: its own, else the one in the stem unless that is blank,
else the default. -/
def expectedName (members : List (String × Json)) (stem : List Char) (defaultName : String) :
    String :=
  (ownName? members).getD
    (if (namePart stem).all Text.isBlankChar then defaultName else String.ofList (namePart stem))

lemma lookup?_withDefault {key key' : String} (h : key ≠ key') (value : Json) :
    Json.lookup? (withDefault members key value) key' = Json.lookup? members key' := by
  unfold withDefault
  split
  · rfl
  · rw [Json.lookup?_setMember, if_neg h]

lemma lookup?_kind_complete :
    Json.lookup? (complete members kind name) "kind" = some (.string kind) := by
  rw [complete, Json.lookup?_setMember, if_neg (by decide), Json.lookup?_setMember, if_pos rfl]

lemma lookup?_metadata_complete : Json.lookup? (complete members kind name) "metadata" =
    some (named name ((Json.lookup? members "metadata").getD (.object []))) := by
  rw [complete, Json.lookup?_setMember, if_pos rfl, Json.lookup?_setMember, if_neg (by decide)]
  split
  · rw [lookup?_withDefault (by decide)]
  · rfl

lemma textOf?_eq_some {value : Json} {s : String} (h : textOf? value = some s) :
    value = .string s := by
  cases value with
  | string => exact congrArg Json.string (Option.some.inj h)
  | _ => cases h

/-- A name that is given stays, and any other value is replaced. -/
lemma exists_named (name : String) (members : List (String × Json)) :
    ∃ filled, named name (.object members) = .object filled ∧
      Json.lookup? filled "name" = some (.string ((nameIn? (.object members)).getD name)) := by
  unfold named
  dsimp only
  cases hown : nameIn? (.object members) with
  | none =>
    change ((Json.lookup? members "name").bind textOf?).filter _ = _ at hown
    rw [hown]
    exact ⟨_, rfl, by rw [Json.lookup?_setMember, if_pos rfl]; rfl⟩
  | some own =>
    change ((Json.lookup? members "name").bind textOf?).filter _ = _ at hown
    rw [hown]
    obtain ⟨value, hvalue, htext⟩ :=
      Option.bind_eq_some_iff.mp (Option.filter_eq_some_iff.mp hown).1
    exact ⟨members, rfl, by rw [hvalue, textOf?_eq_some htext]; rfl⟩

/-- Metadata without a value stays without a name; any other gets one. -/
lemma name_of_named {read : ObjectMeta}
    (h : ofRequired (some (named name metadata).canonical) = some read) :
    metadata = .null ∧ read.name = none ∨
      metadata ≠ .null ∧ read.name = some ((nameIn? metadata).getD name) := by
  cases metadata with
  | null =>
    cases h
    exact .inl ⟨rfl, rfl⟩
  | object members =>
    obtain ⟨filled, hfilled, hname⟩ := exists_named name members
    rw [hfilled] at h
    have hread := ObjectMeta.name_of_decode h
    rw [optional?_eq, Json.find?_canonical, hname] at hread
    exact .inr ⟨nofun, (Option.some.inj hread).symm⟩
  | bool | number | string | array => cases h

/-- Metadata that is left out counts as empty, but null does not. -/
lemma getD_metadata_eq_null_iff {given : Option Json} :
    given.getD (.object []) = .null ↔ given = some .null := by
  cases given <;> simp

lemma nameIn?_metadata (members : List (String × Json)) :
    nameIn? ((Json.lookup? members "metadata").getD (.object [])) = ownName? members := by
  unfold ownName?
  cases Json.lookup? members "metadata" <;> rfl

/-- What is read is the completed fragment, unless no kind is found for it. -/
lemma toResource_cases {file defaultName : String} {value : Json} {r : Resource}
    (h : toResource file value defaultName = .ok r) :
    ∃ stem members kind, stem? file = some stem ∧
      (value = .object members ∨ value = .null ∧ members = []) ∧
      some kind = (declaredKind? members).or ((stemKind? stem).map Kind.name) ∧
      Resource.ofJson (Json.object (complete members kind
        ((text? (namePart stem)).getD defaultName))).canonical = .ok r := by
  unfold toResource at h
  split at h
  next parts hparts =>
    cases value with
    | object | null =>
      obtain ⟨members, hmembers, h⟩ := Except.bind_eq_ok.mp h
      cases hmembers
      obtain ⟨⟨name, kind⟩, hidentify, h⟩ := Except.bind_eq_ok.mp h
      obtain ⟨stem, hstem, rfl, rfl⟩ := identify_of_parse? hparts hidentify
      dsimp only at h
      split at h
      next kind hkind =>
        rw [Option.orElse_eq_orElse, Option.orElse_eq_or] at hkind
        exact ⟨stem, _, kind, hstem, by simp, hkind.symm, h⟩
      next => cases h
    | _ => cases h
  next => cases h

lemma isBlank_ownName? {own : String} (h : ownName? members = some own) :
    Text.isBlank own = false := by
  obtain ⟨metadata, _, hname⟩ := Option.bind_eq_some_iff.mp h
  have hnot := (Option.filter_eq_some_iff.mp hname).2
  simpa using hnot

/-- A name is as expected unless it is a blank one from the file name. -/
lemma filter_name_iff {stem : List Char} {defaultName : String}
    (hdefault : Text.isBlank defaultName = false) :
    (some ((ownName? members).getD ((text? (namePart stem)).getD defaultName))).filter
        (fun n => !Text.isBlank n) = some (expectedName members stem defaultName) ↔
      (ownName? members).isSome = true ∨ namePart stem = [] ∨
        (namePart stem).all Text.isBlankChar = false := by
  have hblank : Text.isBlank (String.ofList (namePart stem)) =
      (namePart stem).all Text.isBlankChar := by
    rw [Text.isBlank, String.toList_ofList]
  unfold expectedName text?
  cases hown : ownName? members with
  | some own => simp [isBlank_ownName? hown]
  | none =>
    by_cases hempty : namePart stem = []
    · simp [hempty, hdefault]
    · cases hpart : (namePart stem).all Text.isBlankChar with
      | true =>
        have hne : String.ofList (namePart stem) ≠ defaultName := by
          intro heq
          rw [← heq, hblank, hpart] at hdefault
          cases hdefault
        simp [hempty, hne]
      | false => simp [hempty, hblank, hpart]

/-- The kind and the name of a fragment.  The kind is the declared one, else that of the type in the
file name.  Where the metadata is not null, the name is the one of the fragment, else the one in the
file name unless that is empty, else the default; so it is as expected unless a blank name stands in
the file name.  With metadata that is null there is no name. -/
theorem name_toResource_iff {file defaultName : String} {value : Json} {r : Resource}
    (hdefault : Text.isBlank defaultName = false) (h : toResource file value defaultName = .ok r) :
    ∃ stem members, stem? file = some stem ∧
      (value = .object members ∨ value = .null ∧ members = []) ∧
      some r.kind.name = (declaredKind? members).or ((stemKind? stem).map Kind.name) ∧
      (Json.lookup? members "metadata" = some .null → r.metadata.name = none) ∧
      (Json.lookup? members "metadata" ≠ some .null → r.metadata.name =
        some ((ownName? members).getD ((text? (namePart stem)).getD defaultName))) ∧
      (r.name? = some (expectedName members stem defaultName) ↔
        Json.lookup? members "metadata" ≠ some .null ∧
          ((ownName? members).isSome = true ∨ namePart stem = [] ∨
            (namePart stem).all Text.isBlankChar = false)) := by
  obtain ⟨stem, members, kind, hstem, hvalue, hkind, hread⟩ := toResource_cases h
  obtain ⟨hrkind, hmetadata⟩ := Resource.of_ofJson hread
  rw [Json.lookup?_canonical, lookup?_kind_complete] at hrkind
  rw [Json.find?_canonical, lookup?_metadata_complete] at hmetadata
  cases hrkind
  refine ⟨stem, members, hstem, hvalue, hkind, ?_⟩
  unfold Resource.name?
  obtain ⟨hnull, hname⟩ | ⟨hgiven, hname⟩ := name_of_named hmetadata
  · rw [getD_metadata_eq_null_iff] at hnull
    rw [hnull, hname]
    exact ⟨fun _ => rfl, fun h => absurd rfl h, nofun, fun h => absurd rfl h.1⟩
  · rw [Ne, getD_metadata_eq_null_iff] at hgiven
    rw [nameIn?_metadata] at hname
    refine ⟨fun hnull => absurd hnull hgiven, fun _ => hname, ?_⟩
    rw [hname, filter_name_iff hdefault]
    exact (and_iff_right hgiven).symm

/-- A file that says `metadata:` and nothing behind it. -/
def unnamedFragment : Json := .object [("metadata", .null)]

/-- Metadata that is null keeps the name in the file name away. -/
theorem name_toResource_unnamed : Text.isBlank "demo" = false ∧
    ∃ r, toResource "web-svc.yml" unnamedFragment "demo" = .ok r ∧ r.kind.name = "Service" ∧
      r.name? = none ∧ expectedName [("metadata", .null)] "web-svc".toList "demo" = "web" := by
  have hdefault : Text.isBlank "demo" = false := by decide
  have hstem : stem? "web-svc.yml" = some "web-svc".toList := by decide +kernel
  have hservice : stemKind? "web-svc".toList = some .service := by decide +kernel
  have hmember : Json.lookup? [("metadata", .null)] "metadata" = some .null := by
    simp [Json.lookup?]
  obtain ⟨r, h⟩ := Except.exists_eq_ok (x := toResource "web-svc.yml" unnamedFragment "demo")
    (by decide +kernel)
  obtain ⟨stem, members, hstem', hvalue, hkind, hnull, _⟩ := name_toResource_iff hdefault h
  obtain rfl := Option.some.inj (hstem.symm.trans hstem')
  obtain rfl : [("metadata", .null)] = members := by
    obtain hvalue | ⟨hvalue, _⟩ := hvalue
    · exact Json.object.inj hvalue
    · cases hvalue
  rw [hservice] at hkind
  have hname : r.name? = none := by rw [Resource.name?, hnull hmember, Option.filter_none]
  exact ⟨hdefault, r, h, Option.some.inj hkind, hname, by decide +kernel⟩

end Fragment
end Manifests
