import Mathlib.Data.List.Nodup
import Manifests.Config.Override
import Manifests.Proofs.Blank
import Manifests.Proofs.Entries
import Manifests.Proofs.Outcome
import Manifests.Proofs.Text

/-! Overrides of a build document.  Different keys write different places, so the overrides that
some texts give make one document of another in whatever order they are applied. -/
namespace Manifests.Config.Override

variable {pair key value : String} {pairs : List String}

/-! ### Texts -/

/-- A text that gives a value for a key: both stand trimmed around the first `=`. -/
def Gives (pair key value : String) : Prop :=
  ∃ front back, pair.toList = front ++ '=' :: back ∧ '=' ∉ front ∧
    Text.isBlank (String.ofList front) = false ∧
    key = Text.trim (String.ofList front) ∧ value = Text.trim (String.ofList back)

/-- A text without `=`, or with nothing but blanks in front of it. -/
def IsIdle (pair : String) : Prop :=
  '=' ∉ pair.toList ∨ ∃ front back, pair.toList = front ++ '=' :: back ∧
    Text.isBlank (String.ofList front) = true

/-- The last of the texts that give a value for the key gives this one. -/
def LastGives (pairs : List String) (key value : String) : Prop :=
  ∃ front pair back, pairs = front ++ pair :: back ∧ Gives pair key value ∧
    ∀ other ∈ back, ∀ v, ¬Gives other key v

lemma nonBlank?_eq_some_iff {s t : String} :
    Text.nonBlank? s = some t ↔ Text.isBlank s = false ∧ Text.trim s = t := by
  have hsome := Text.isSome_nonBlank? s
  unfold Text.nonBlank? at hsome ⊢
  dsimp only at hsome ⊢
  by_cases h : Text.trim s = ""
  · rw [if_pos h] at hsome ⊢
    have hblank : Text.isBlank s = true := by simpa using hsome.symm
    simp [hblank]
  · rw [if_neg h] at hsome ⊢
    have hblank : Text.isBlank s = false := by simpa using hsome.symm
    simp [hblank]

lemma entry?_eq_some_iff : entry? pair = some (key, value) ↔ Gives pair key value := by
  unfold entry? Gives
  simp only [Option.bind_eq_bind, Option.bind_eq_some_iff, Prod.exists, Text.cutFirst?_eq_some_iff,
    nonBlank?_eq_some_iff, Option.pure_def, Option.some.injEq, Prod.mk.injEq]
  constructor
  · rintro ⟨front, back, ⟨hpair, hfront⟩, _, ⟨hblank, rfl⟩, rfl, rfl⟩
    exact ⟨front, back, hpair, hfront, hblank, rfl, rfl⟩
  · rintro ⟨front, back, hpair, hfront, hblank, rfl, rfl⟩
    exact ⟨front, back, ⟨hpair, hfront⟩, _, ⟨hblank, rfl⟩, rfl, rfl⟩

lemma entry?_eq_none (h : IsIdle pair) : entry? pair = none := by
  refine Option.eq_none_iff_forall_ne_some.mpr fun entry hentry => ?_
  obtain ⟨front, back, hpair, hfront, hblank, _⟩ := entry?_eq_some_iff.mp hentry
  obtain hnone | ⟨front', back', hpair', hblank'⟩ := h
  · exact hnone (by rw [hpair]; simp)
  · -- blanks are no `=`, so both cut the text at its first one
    have hfront' : '=' ∉ front' := by
      intro hmem
      have hnot : Text.isBlank (String.ofList front') = false :=
        Text.isBlank_eq_false_of_mem (by rwa [String.toList_ofList]) (by decide)
      rw [hblank'] at hnot
      cases hnot
    have hcut : Text.cutFirst? '=' pair.toList = some (front', back') :=
      Text.cutFirst?_eq_some_iff.mpr ⟨hpair', hfront'⟩
    rw [Text.cutFirst?_eq_some_iff.mpr ⟨hpair, hfront⟩] at hcut
    cases hcut
    rw [hblank] at hblank'
    cases hblank'

lemma parse_concat (pairs : List String) (pair : String) : parse (pairs ++ [pair]) =
    match entry? pair with
    | none => parse pairs
    | some (key, value) => (parse pairs).insert key value := by
  unfold parse SortedMap.ofList
  rw [List.filterMap_append, List.foldl_append]
  cases hentry : entry? pair <;> simp [hentry]

lemma lastGives_concat : LastGives (pairs ++ [pair]) key value ↔
    Gives pair key value ∨ (∀ v, ¬Gives pair key v) ∧ LastGives pairs key value := by
  constructor
  · rintro ⟨front, last, back, hpairs, hgives, hback⟩
    cases back using List.reverseRecOn with
    | nil =>
      obtain ⟨_, hlast⟩ := List.append_inj' hpairs rfl
      cases hlast
      exact .inl hgives
    | append_singleton back other =>
      rw [← List.cons_append, ← List.append_assoc] at hpairs
      obtain ⟨hfront, hother⟩ := List.append_inj' hpairs rfl
      cases hother
      refine .inr ⟨hback pair (by simp), front, last, back, hfront, hgives, fun p hp => ?_⟩
      exact hback p (List.mem_append_left _ hp)
  · rintro (hgives | ⟨hnone, front, last, back, rfl, hgives, hback⟩)
    · exact ⟨pairs, pair, [], rfl, hgives, by simp⟩
    · refine ⟨front, last, back ++ [pair], by simp, hgives, fun p hp => ?_⟩
      obtain hp | hp := List.mem_append.mp hp
      · exact hback p hp
      · cases List.mem_singleton.mp hp
        exact hnone

lemma get?_parse_eq_some_iff : (parse pairs).get? key = some value ↔ LastGives pairs key value := by
  induction pairs using List.reverseRecOn with
  | nil =>
    refine iff_of_false (by simp [parse, SortedMap.ofList]) ?_
    rintro ⟨front, pair, back, hnil, _⟩
    simp at hnil
  | append_singleton pairs pair ih =>
    rw [parse_concat, lastGives_concat, ← ih]
    simp only [← entry?_eq_some_iff]
    cases hentry : entry? pair with
    | none => simp
    | some entry =>
      obtain ⟨k, v⟩ := entry
      dsimp only
      rw [SortedMap.get?_insert]
      by_cases hk : k = key
      · subst hk
        simp
      · simp [hk]

/-! ### Documents -/

/-- The keys that address a setting; all others address a property of their own. -/
def settingKeys : List String :=
  ["project.version", "resources.controller-name", "resources.image-pull-policy",
    "resources.replicas", "resources.service-account", "platform.mode"]

/-- A document without what overrides write. -/
def untouched (b : Build) : Build :=
  { b with
    project := { b.project with version := none, properties := ∅ }
    resources := { b.resources with
      controllerName := none, imagePullPolicy := none, replicas := none, serviceAccount := none }
    platform := default }

/-- A document that comes of another by the given overrides.  What is no number of replicas and no
platform does not count. -/
structure Overridden (given : String → Option String) (b b' : Build) : Prop where
  version : b'.project.version = (given "project.version").or b.project.version
  controllerName : b'.resources.controllerName =
    (given "resources.controller-name").or b.resources.controllerName
  imagePullPolicy : b'.resources.imagePullPolicy =
    (given "resources.image-pull-policy").or b.resources.imagePullPolicy
  replicas : b'.resources.replicas =
    ((given "resources.replicas").bind fun n => Text.int32? n.toList).or b.resources.replicas
  serviceAccount : b'.resources.serviceAccount =
    (given "resources.service-account").or b.resources.serviceAccount
  platform : b'.platform =
    ((given "platform.mode").bind fun name => (Platform.parse name).toOption).getD b.platform
  property : ∀ key, b'.project.properties.get? key =
    (if key ∈ settingKeys then none else given key).or (b.project.properties.get? key)
  others : untouched b' = untouched b

namespace Overridden

variable {given first second : String → Option String} {b b₁ b₂ : Build}

lemma refl (b : Build) : Overridden (fun _ => none) b b :=
  ⟨rfl, rfl, rfl, rfl, rfl, rfl, fun key => by simp, rfl⟩

/-- Of two values of which one is absent, it does not matter which one hides the other. -/
lemma or_or_of_apart {α : Type} {x y : Option α} (h : x = none ∨ y = none) (z : Option α) :
    y.or (x.or z) = (x.or y).or z := by
  obtain rfl | rfl := h <;> simp

lemma or_bind_of_apart {α β : Type} {x y : Option α} (f : α → Option β) (h : x = none ∨ y = none) :
    (x.or y).bind f = (x.bind f).or (y.bind f) := by
  obtain rfl | rfl := h <;> simp

/-- Overrides of different keys do not hide each other. -/
lemma trans (h : Overridden first b b₁) (h' : Overridden second b₁ b₂)
    (hapart : ∀ key, first key = none ∨ second key = none) :
    Overridden (fun key => (first key).or (second key)) b b₂ where
  version := by rw [h'.version, h.version, or_or_of_apart (hapart _)]
  controllerName := by rw [h'.controllerName, h.controllerName, or_or_of_apart (hapart _)]
  imagePullPolicy := by rw [h'.imagePullPolicy, h.imagePullPolicy, or_or_of_apart (hapart _)]
  replicas := by
    rw [h'.replicas, h.replicas, or_bind_of_apart _ (hapart _), or_or_of_apart]
    exact (hapart _).imp (fun hnone => by rw [hnone]; rfl) (fun hnone => by rw [hnone]; rfl)
  serviceAccount := by rw [h'.serviceAccount, h.serviceAccount, or_or_of_apart (hapart _)]
  platform := by
    rw [h'.platform, h.platform]
    obtain hnone | hnone := hapart "platform.mode" <;> simp [hnone]
  property key := by
    rw [h'.property, h.property]
    split
    · simp
    · exact or_or_of_apart (hapart key) _
  others := h'.others.trans h.others

/-- The overrides say all about the document. -/
lemma unique (h₁ : Overridden given b b₁) (h₂ : Overridden given b b₂) : b₁ = b₂ := by
  have hversion := h₁.version.trans h₂.version.symm
  have hcontrollerName := h₁.controllerName.trans h₂.controllerName.symm
  have himagePullPolicy := h₁.imagePullPolicy.trans h₂.imagePullPolicy.symm
  have hreplicas := h₁.replicas.trans h₂.replicas.symm
  have hserviceAccount := h₁.serviceAccount.trans h₂.serviceAccount.symm
  have hplatform := h₁.platform.trans h₂.platform.symm
  have hproperties := SortedMap.ext_get? fun key => (h₁.property key).trans (h₂.property key).symm
  have hothers := h₁.others.trans h₂.others.symm
  obtain ⟨p₁, images₁, r₁, enricher₁, platform₁⟩ := b₁
  obtain ⟨p₂, images₂, r₂, enricher₂, platform₂⟩ := b₂
  obtain ⟨⟩ := p₁
  obtain ⟨⟩ := p₂
  obtain ⟨⟩ := r₁
  obtain ⟨⟩ := r₂
  simp_all [untouched]

end Overridden

section Apply
variable {b : Build}

/-- The override of a key alone. -/
def only (key value : String) : String → Option String :=
  fun k => if k = key then some value else none

lemma only_of_ne {k : String} (h : k ≠ key) : only key value k = none := if_neg h

/-- A key that addresses a setting addresses no property. -/
lemma property_of_setting {m : SortedMap String} (h : key ∈ settingKeys) (value k : String) :
    m.get? k = (if k ∈ settingKeys then none else only key value k).or (m.get? k) := by
  split
  next => rfl
  next hk =>
    have hne : k ≠ key := (ne_of_mem_of_not_mem h hk).symm
    rw [only_of_ne hne, Option.none_or]

lemma overridden_property (b : Build) (h : key ∉ settingKeys) (value : String) :
    Overridden (only key value) b { b with
      project := { b.project with properties := b.project.properties.insert key value } } :=
  have hother : ∀ setting ∈ settingKeys, only key value setting = none := fun setting hsetting =>
    only_of_ne (ne_of_mem_of_not_mem hsetting h)
  { version := by rw [hother _ (by decide), Option.none_or]
    controllerName := by rw [hother _ (by decide), Option.none_or]
    imagePullPolicy := by rw [hother _ (by decide), Option.none_or]
    replicas := by rw [hother _ (by decide), Option.bind_none, Option.none_or]
    serviceAccount := by rw [hother _ (by decide), Option.none_or]
    platform := by rw [hother _ (by decide), Option.bind_none, Option.getD_none]
    property := fun k => by
      rw [SortedMap.get?_insert]
      by_cases hk : key = k
      · subst hk
        rw [if_pos rfl, if_neg h, only, if_pos rfl, Option.some_or]
      · rw [if_neg hk, only_of_ne (Ne.symm hk), ite_self, Option.none_or]
    others := rfl }

/-- Every override is applied; one with a value that can not be read leaves the document alone. -/
lemma exists_returns_apply (b : Build) (key value : String) :
    ∃ b', (apply b key value).Returns b' ∧ Overridden (only key value) b b' := by
  unfold apply
  split
  case h_1 | h_2 | h_3 | h_5 =>
    refine ⟨_, Logged.returns_pure.mpr rfl, ?_⟩
    refine ⟨rfl, rfl, rfl, rfl, rfl, rfl, property_of_setting (by decide) value, rfl⟩
  case h_4 =>
    split
    next replicas hreplicas =>
      refine ⟨_, Logged.returns_pure.mpr rfl, ?_⟩
      refine ⟨rfl, rfl, rfl, ?_, rfl, rfl, property_of_setting (by decide) value, rfl⟩
      change some replicas = (Text.int32? value.toList).or _
      rw [hreplicas]
      rfl
    next hnone =>
      refine ⟨b, Logged.returns_bind.mpr ⟨(), rfl, Logged.returns_pure.mpr rfl⟩, ?_⟩
      refine ⟨rfl, rfl, rfl, ?_, rfl, rfl, property_of_setting (by decide) value, rfl⟩
      change _ = (Text.int32? value.toList).or _
      rw [hnone]
      rfl
  case h_6 =>
    split
    next platform hplatform =>
      refine ⟨_, Logged.returns_pure.mpr rfl, ?_⟩
      refine ⟨rfl, rfl, rfl, rfl, rfl, ?_, property_of_setting (by decide) value, rfl⟩
      change platform = (Platform.parse value).toOption.getD _
      rw [hplatform]
      rfl
    next error herror =>
      refine ⟨b, Logged.returns_bind.mpr ⟨(), rfl, Logged.returns_pure.mpr rfl⟩, ?_⟩
      refine ⟨rfl, rfl, rfl, rfl, rfl, ?_, property_of_setting (by decide) value, rfl⟩
      change _ = (Platform.parse value).toOption.getD _
      rw [herror]
      rfl
  case h_7 hversion hcontroller hpolicy hreplicas haccount hplatform =>
    have hkey : key ∉ settingKeys := by
      simp only [settingKeys, List.mem_cons, List.not_mem_nil, or_false, not_or]
      exact ⟨hversion, hcontroller, hpolicy, hreplicas, haccount, hplatform⟩
    exact ⟨_, Logged.returns_pure.mpr rfl, overridden_property b hkey value⟩

/-- What is looked up in a list with distinct keys is among its entries. -/
lemma lookup_eq_some_iff {order : List (String × String)} (h : (order.map (·.1)).Nodup) :
    order.lookup key = some value ↔ (key, value) ∈ order := by
  induction order with
  | nil => simp
  | cons entry rest ih =>
    obtain ⟨k, v⟩ := entry
    obtain ⟨hk, hrest⟩ := List.nodup_cons.mp h
    rw [List.lookup_cons, List.mem_cons, ← ih hrest]
    by_cases heq : key = k
    · subst heq
      have hnone : rest.lookup key ≠ some value := fun hfound =>
        hk (List.mem_map.mpr ⟨_, (ih hrest).mp hfound, rfl⟩)
      simp [hnone, eq_comm]
    · have hbeq : (key == k) = false := beq_false_of_ne heq
      simp [heq, hbeq]

/-- Overrides of different keys are all applied, whichever comes first. -/
lemma exists_returns_applyAll {order : List (String × String)} (h : (order.map (·.1)).Nodup)
    (b : Build) : ∃ b', (applyAll b order).Returns b' ∧ Overridden (order.lookup ·) b b' := by
  induction order generalizing b with
  | nil => exact ⟨b, Logged.returns_pure.mpr rfl, .refl b⟩
  | cons entry rest ih =>
    obtain ⟨key, value⟩ := entry
    obtain ⟨hkey, hrest⟩ := List.nodup_cons.mp h
    obtain ⟨b₁, happly, hfirst⟩ := exists_returns_apply b key value
    obtain ⟨b₂, hall, hsecond⟩ := ih hrest b₁
    have hnone : rest.lookup key = none := by
      refine Option.eq_none_iff_forall_ne_some.mpr fun v hv => hkey ?_
      exact List.mem_map.mpr ⟨_, (lookup_eq_some_iff hrest).mp hv, rfl⟩
    have hlookup : (((key, value) :: rest).lookup ·) =
        fun k => (only key value k).or (rest.lookup k) := by
      funext k
      rw [List.lookup_cons]
      by_cases hk : k = key
      · simp [hk, only]
      · have hbeq : (k == key) = false := beq_false_of_ne hk
        simp [hbeq, only_of_ne hk]
    refine ⟨b₂, Logged.returns_bind.mpr ⟨b₁, happly, hall⟩, ?_⟩
    rw [hlookup]
    refine hfirst.trans hsecond fun k => ?_
    by_cases hk : k = key
    · exact .inr (hk ▸ hnone)
    · exact .inl (only_of_ne hk)

end Apply

/-- **The order of overrides does not matter.**  Of the texts with one key the last one counts, idle
texts do not, and what the keys do not address stays. -/
theorem overridden_applyAll (b : Build) (pairs : List String) :
    (∀ key value, (parse pairs).get? key = some value ↔ LastGives pairs key value) ∧
    (∀ front pair back, pairs = front ++ pair :: back → IsIdle pair →
      parse pairs = parse (front ++ back)) ∧
    ∃ b', Overridden (parse pairs).get? b b' ∧
      ∀ order, order.Perm (parse pairs).toList → (applyAll b order).Returns b' := by
  refine ⟨fun key value => get?_parse_eq_some_iff, ?_, ?_⟩
  · rintro front pair back rfl hidle
    unfold parse
    rw [List.filterMap_append, List.filterMap_append, List.filterMap_cons, entry?_eq_none hidle]
  · have hreturns : ∀ order, order.Perm (parse pairs).toList →
        ∃ b', (applyAll b order).Returns b' ∧ Overridden (parse pairs).get? b b' := by
      intro order horder
      have hnodup : (order.map (·.1)).Nodup :=
        (horder.map (·.1)).nodup_iff.mpr (parse pairs).nodup_keys
      have hlookup : (order.lookup ·) = (parse pairs).get? := by
        funext key
        refine Option.ext fun value => ?_
        rw [lookup_eq_some_iff hnodup, SortedMap.get?_eq_some_iff, horder.mem_iff]
      exact hlookup ▸ exists_returns_applyAll hnodup b
    obtain ⟨b', _, hb'⟩ := hreturns _ (.refl _)
    refine ⟨b', hb', fun order horder => ?_⟩
    obtain ⟨b₁, hall, hb₁⟩ := hreturns order horder
    exact hb'.unique hb₁ ▸ hall

example : (parse ["project.version=1", " project.version = 2", "other", " =x"]).toList =
    [("project.version", "2")] := by decide +kernel

end Manifests.Config.Override
