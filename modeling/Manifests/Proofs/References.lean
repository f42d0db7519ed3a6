import Manifests.ImageReference
import Manifests.Proofs.Text

/-! Image references and their parts.  Parsing finds the only parts that a reference can have, so
that nothing is lost and parts that are put together are found again. -/
namespace Manifests.ImageReference

variable {r : ImageReference} {cs rest tag first : List Char}

/-- A segment with a dot or a colon in it, or the local host. -/
def LooksLikeHost (segment : String) : Prop :=
  '.' ∈ segment.toList ∨ ':' ∈ segment.toList ∨ segment = "localhost"

lemma isRegistry_iff : isRegistry cs = true ↔ LooksLikeHost (String.ofList cs) := by
  have hlocal : cs = "localhost".toList ↔ String.ofList cs = "localhost" :=
    ⟨fun h => congrArg String.ofList h, fun h => by simpa using congrArg String.toList h⟩
  simp only [isRegistry, LooksLikeHost, Bool.or_eq_true, List.contains_iff_mem, beq_iff_eq,
    String.toList_ofList, hlocal, or_assoc]

/-- Of two suffixes one ends with the other. -/
lemma cons_suffix_cases {c d : Char} {cs ds text : List Char} (h : c :: cs <:+ text)
    (h' : d :: ds <:+ text) : (c = d ∧ cs = ds) ∨ c :: cs <:+ ds ∨ d :: ds <:+ cs := by
  obtain hsuffix | hsuffix := List.suffix_or_suffix_of_suffix h h'
  · obtain heq | hsuffix := List.suffix_cons_iff.mp hsuffix
    · exact .inl (List.cons.inj heq)
    · exact .inr (.inl hsuffix)
  · obtain heq | hsuffix := List.suffix_cons_iff.mp hsuffix
    · exact .inl ((List.cons.inj heq).imp Eq.symm Eq.symm)
    · exact .inr (.inr hsuffix)

/-! ### The tag -/

/-- Whatever stands behind a colon has a slash in it. -/
def IsUntagged (cs : List Char) : Prop :=
  ∀ before after, cs = before ++ ':' :: after → '/' ∈ after

lemma splitTag_eq_some_iff :
    splitTag cs = (rest, some tag) ↔ cs = rest ++ ':' :: tag ∧ ':' ∉ tag ∧ '/' ∉ tag := by
  constructor
  · intro h
    unfold splitTag at h
    split at h
    next before after hcut =>
      obtain ⟨hcs, hcolon⟩ := Text.cutLast?_eq_some_iff.mp hcut
      split at h
      next => cases h
      next hslash =>
        cases h
        exact ⟨hcs, hcolon, by simpa using hslash⟩
    next => cases h
  · rintro ⟨rfl, hcolon, hslash⟩
    simp [splitTag, Text.cutLast?_append rest hcolon, hslash]

/-- The last colon decides: what stands behind another one ends with what stands behind it. -/
lemma splitTag_eq_none_iff : splitTag cs = (rest, none) ↔ rest = cs ∧ IsUntagged cs := by
  cases hcut : Text.cutLast? ':' cs with
  | none =>
    have hcolon := Text.cutLast?_eq_none_iff.mp hcut
    have huntagged : IsUntagged cs := by
      rintro before after rfl
      simp at hcolon
    simp [splitTag, hcut, huntagged, eq_comm]
  | some cut =>
    obtain ⟨before, after⟩ := cut
    obtain ⟨rfl, hcolon⟩ := Text.cutLast?_eq_some_iff.mp hcut
    have huntagged : IsUntagged (before ++ ':' :: after) ↔ '/' ∈ after := by
      refine ⟨fun h => h before after rfl, fun hslash before' after' heq => ?_⟩
      have hafter' : ':' :: after' <:+ before ++ ':' :: after :=
        heq ▸ List.suffix_append before' (':' :: after')
      obtain ⟨-, rfl⟩ | hsuffix | hsuffix :=
        cons_suffix_cases (List.suffix_append before (':' :: after)) hafter'
      · exact hslash
      · exact hsuffix.mem (List.mem_cons_of_mem _ hslash)
      · exact absurd (hsuffix.mem List.mem_cons_self) hcolon
    by_cases hslash : '/' ∈ after <;> simp [splitTag, hcut, hslash, huntagged, eq_comm]

/-! ### The registry -/

/-- Nothing that looks like a host stands in front of the first slash. -/
def IsUnhosted (cs : List Char) : Prop :=
  ∀ first rest, cs = first ++ '/' :: rest → '/' ∉ first → ¬LooksLikeHost (String.ofList first)

lemma splitRegistry_eq_some_iff :
    splitRegistry cs = (some first, rest) ↔
      cs = first ++ '/' :: rest ∧ '/' ∉ first ∧ LooksLikeHost (String.ofList first) := by
  constructor
  · intro h
    unfold splitRegistry at h
    split at h
    next front back hcut =>
      obtain ⟨hcs, hslash⟩ := Text.cutFirst?_eq_some_iff.mp hcut
      split at h
      next hhost =>
        cases h
        exact ⟨hcs, hslash, isRegistry_iff.mp hhost⟩
      next => cases h
    next => cases h
  · rintro ⟨rfl, hslash, hhost⟩
    simp [splitRegistry, Text.cutFirst?_append hslash, isRegistry_iff.mpr hhost]

lemma splitRegistry_eq_none_iff : splitRegistry cs = (none, rest) ↔ rest = cs ∧ IsUnhosted cs := by
  cases hcut : Text.cutFirst? '/' cs with
  | none =>
    have hslash := Text.cutFirst?_eq_none_iff.mp hcut
    have hunhosted : IsUnhosted cs := by
      rintro first rest rfl
      simp at hslash
    simp [splitRegistry, hcut, hunhosted, eq_comm]
  | some cut =>
    obtain ⟨front, back⟩ := cut
    have hunhosted : IsUnhosted cs ↔ ¬LooksLikeHost (String.ofList front) := by
      obtain ⟨hcs, hslash⟩ := Text.cutFirst?_eq_some_iff.mp hcut
      refine ⟨fun h => h front back hcs hslash, fun hhost first rest heq hfirst => ?_⟩
      rw [Text.cutFirst?_eq_some_iff.mpr ⟨heq, hfirst⟩] at hcut
      cases hcut
      exact hhost
    by_cases hhost : LooksLikeHost (String.ofList front)
    · simp [splitRegistry, hcut, isRegistry_iff.mpr hhost, hunhosted, hhost]
    · simp [splitRegistry, hcut, mt isRegistry_iff.mp hhost, hunhosted, hhost, eq_comm]

/-! ### Parts that are put together -/

/-- The repository behind its registry. -/
def base (r : ImageReference) : List Char :=
  (r.registry.map (·.toList ++ ['/'])).getD [] ++ r.repository.toList

/-- The parts of a reference that could not be read as others. -/
structure Canonical (r : ImageReference) : Prop where
  tag : ∀ t ∈ r.tag, ':' ∉ t.toList ∧ '/' ∉ t.toList
  untagged : r.tag = none → IsUntagged r.base
  registry : ∀ g ∈ r.registry, '/' ∉ g.toList ∧ LooksLikeHost g
  unhosted : r.registry = none → IsUnhosted r.repository.toList

lemma toList_fullName (r : ImageReference) :
    r.fullName.toList = r.base ++ (r.tag.map (':' :: ·.toList)).getD [] := by
  obtain ⟨registry, repository, tag⟩ := r
  cases registry <;> cases tag <;> simp [fullName, base]

lemma splitTag_eq_iff : splitTag cs = (r.base, r.tag.map String.toList) ↔
    cs = r.fullName.toList ∧ (∀ t ∈ r.tag, ':' ∉ t.toList ∧ '/' ∉ t.toList) ∧
      (r.tag = none → IsUntagged r.base) := by
  rw [toList_fullName]
  cases htag : r.tag with
  | none =>
    rw [Option.map_none, splitTag_eq_none_iff]
    constructor
    · rintro ⟨rfl, h⟩
      simpa using h
    · rintro ⟨hcs, _, h⟩
      have hcs : cs = r.base := by simpa using hcs
      exact ⟨hcs.symm, hcs ▸ h rfl⟩
  | some t => simp [splitTag_eq_some_iff]

lemma splitRegistry_eq_iff :
    splitRegistry cs = (r.registry.map String.toList, r.repository.toList) ↔
      cs = r.base ∧ (∀ g ∈ r.registry, '/' ∉ g.toList ∧ LooksLikeHost g) ∧
        (r.registry = none → IsUnhosted r.repository.toList) := by
  unfold base
  cases hregistry : r.registry with
  | none =>
    rw [Option.map_none, splitRegistry_eq_none_iff]
    constructor
    · rintro ⟨rfl, h⟩
      simpa using h
    · rintro ⟨hcs, _, h⟩
      have hcs : cs = r.repository.toList := by simpa using hcs
      exact ⟨hcs.symm, hcs ▸ h rfl⟩
  | some g => simp [splitRegistry_eq_some_iff]

lemma parse_eq_iff_split {s : String} : parse s = r ↔ ∃ rest,
    splitTag s.toList = (rest, r.tag.map String.toList) ∧
      splitRegistry rest = (r.registry.map String.toList, r.repository.toList) := by
  obtain ⟨registry, repository, tag⟩ := r
  have htext : ∀ {cs : List Char} {t : String}, String.ofList cs = t ↔ cs = t.toList := by
    intro cs t
    rw [← String.toList_inj, String.toList_ofList]
  have hoption : ∀ {o : Option (List Char)} {t : Option String},
      o.map String.ofList = t ↔ o = t.map String.toList := by
    intro o t
    cases o <;> cases t <;> simp [htext]
  unfold parse
  simp only [ImageReference.mk.injEq, htext, hoption, Prod.ext_iff]
  constructor
  · rintro ⟨hregistry, hrepository, htag⟩
    exact ⟨_, ⟨rfl, htag⟩, hregistry, hrepository⟩
  · rintro ⟨rest, ⟨rfl, htag⟩, hregistry, hrepository⟩
    exact ⟨hregistry, hrepository, htag⟩

/-- A text has exactly one reference that it is the name of and that could not be read otherwise. -/
lemma parse_eq_iff {s : String} : parse s = r ↔ r.fullName = s ∧ r.Canonical := by
  rw [parse_eq_iff_split]
  constructor
  · rintro ⟨rest, htag, hregistry⟩
    obtain ⟨rfl, hhost, hunhosted⟩ := splitRegistry_eq_iff.mp hregistry
    obtain ⟨hname, hsegment, huntagged⟩ := splitTag_eq_iff.mp htag
    exact ⟨String.toList_inj.mp hname.symm, hsegment, huntagged, hhost, hunhosted⟩
  · rintro ⟨rfl, h⟩
    exact ⟨r.base, splitTag_eq_iff.mpr ⟨rfl, h.tag, h.untagged⟩,
      splitRegistry_eq_iff.mpr ⟨rfl, h.registry, h.unhosted⟩⟩

/-! ### The repository -/

/-- A simple name, or one behind the user. -/
def EndsInName (r : ImageReference) : Prop :=
  (r.user? = none ∧ r.repository = r.simpleName) ∨
    ∃ user, r.user? = some user ∧ '/' ∉ user.toList ∧
      (r.repository = user ++ "/" ++ r.simpleName ∨
        ∃ front, r.repository = front ++ "/" ++ user ++ "/" ++ r.simpleName)

lemma endsInName (r : ImageReference) : r.EndsInName := by
  unfold EndsInName user? simpleName
  cases hcut : Text.cutLast? '/' r.repository.toList with
  | none => exact .inl ⟨rfl, rfl⟩
  | some cut =>
    obtain ⟨before, name⟩ := cut
    have hrepository := (Text.cutLast?_eq_some_iff.mp hcut).1
    refine .inr ?_
    dsimp only
    cases huser : Text.cutLast? '/' before with
    | none =>
      refine ⟨_, rfl, by simpa using Text.cutLast?_eq_none_iff.mp huser, .inl ?_⟩
      rw [← String.toList_inj, hrepository]
      simp
    | some cut =>
      obtain ⟨front, user⟩ := cut
      obtain ⟨rfl, hslash⟩ := Text.cutLast?_eq_some_iff.mp huser
      refine ⟨_, rfl, by simpa using hslash, .inr ⟨String.ofList front, ?_⟩⟩
      rw [← String.toList_inj, hrepository]
      simp

lemma slash_not_mem_simpleName (r : ImageReference) : '/' ∉ r.simpleName.toList := by
  unfold simpleName
  split
  next before name hcut => simpa using (Text.cutLast?_eq_some_iff.mp hcut).2
  next hcut => exact Text.cutLast?_eq_none_iff.mp hcut

/-- A tag is one segment without a colon, a registry is one that looks like a host, and the
repository ends in its simple name. -/
structure WellFormed (r : ImageReference) : Prop where
  tag : ∀ t ∈ r.tag, ':' ∉ t.toList ∧ '/' ∉ t.toList
  registry : ∀ g ∈ r.registry, '/' ∉ g.toList ∧ LooksLikeHost g
  simpleName : '/' ∉ r.simpleName.toList
  repository : r.EndsInName

/-- What stands in front of the first slash of the repository, or all of it. -/
def firstSegment (r : ImageReference) : String :=
  String.ofList (r.repository.toList.takeWhile (· ≠ '/'))

/-- A colon in front of the repository belongs to the registry, behind which there is a slash. -/
lemma isUntagged_base (h : ':' ∉ r.repository.toList) : IsUntagged r.base := by
  intro before after hbase
  unfold base at hbase
  cases hregistry : r.registry with
  | none =>
    have hcs : r.repository.toList = before ++ ':' :: after := by simpa [hregistry] using hbase
    simp [hcs] at h
  | some g =>
    have hcs : g.toList ++ '/' :: r.repository.toList = before ++ ':' :: after := by
      simpa [hregistry] using hbase
    obtain ⟨hslash, -⟩ | hsuffix | hsuffix := cons_suffix_cases
      (List.suffix_append g.toList ('/' :: r.repository.toList))
      (hcs ▸ List.suffix_append before (':' :: after))
    · cases hslash
    · exact hsuffix.mem List.mem_cons_self
    · exact absurd (hsuffix.mem List.mem_cons_self) h

lemma isUnhosted_of_firstSegment (h : ¬LooksLikeHost r.firstSegment) :
    IsUnhosted r.repository.toList := by
  intro first rest heq hfirst
  have hfirst : ∀ c ∈ first, (c ≠ '/' : Bool) = true := by
    rintro c hc
    rw [decide_eq_true_eq]
    rintro rfl
    exact hfirst hc
  have hsegment : r.firstSegment = String.ofList first := by
    rw [firstSegment, heq, List.takeWhile_append_of_pos hfirst]
    simp
  rwa [hsegment] at h

/-- **References decompose without loss.**  The parts that a text is parsed to are well formed and
spell it out again, and well-formed parts without a colon or a host where none may be are found
again in what they spell out. -/
theorem fullName_parse :
    (∀ s, (parse s).fullName = s ∧ (parse s).WellFormed) ∧
    ∀ r : ImageReference, r.WellFormed → ':' ∉ r.repository.toList →
      (r.registry = none → ¬LooksLikeHost r.firstSegment) → parse r.fullName = r := by
  constructor
  · intro s
    obtain ⟨hname, hcanonical⟩ := parse_eq_iff.mp (rfl : parse s = parse s)
    exact ⟨hname, hcanonical.tag, hcanonical.registry, slash_not_mem_simpleName _, endsInName _⟩
  · intro r hr hcolon hhost
    exact parse_eq_iff.mpr ⟨rfl, hr.tag, fun _ => isUntagged_base hcolon, hr.registry,
      fun hnone => isUnhosted_of_firstSegment (hhost hnone)⟩

/-- A registry with a port, and a tag. -/
def shopReference : ImageReference := ⟨some "localhost:5000", "acme/shop", some "1.0"⟩

theorem fullName_parse_shop :
    shopReference.WellFormed ∧ ':' ∉ shopReference.repository.toList ∧
      (shopReference.registry = none → ¬LooksLikeHost shopReference.firstSegment) ∧
      parse "localhost:5000/acme/shop:1.0" = shopReference := by
  have hwell : shopReference.WellFormed := by
    refine ⟨?_, ?_, slash_not_mem_simpleName _, endsInName _⟩
    · rintro t ⟨⟩
      decide
    · rintro g ⟨⟩
      exact ⟨by decide, .inr (.inl (by decide))⟩
  have hcolon : ':' ∉ shopReference.repository.toList := by decide
  have hhost : shopReference.registry = none → ¬LooksLikeHost shopReference.firstSegment := by
    rintro ⟨⟩
  exact ⟨hwell, hcolon, hhost, fullName_parse.2 shopReference hwell hcolon hhost⟩

end Manifests.ImageReference
