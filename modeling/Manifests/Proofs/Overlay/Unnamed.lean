import Mathlib.Data.Finset.Card
import Mathlib.Data.Finset.Insert
import Mathlib.Data.Finset.SDiff
import Manifests.Proofs.Overlay.Places

/-! Unnamed overrides behind the containers of the base.  They go by their index in a list that the
overrides before them may have made longer, so one of them goes under an added container whenever
enough new names came before it. -/
namespace Manifests

/-- The names that overrides bring in. -/
def newNames (base us : List Container) : Finset String :=
  (us.map (·.name)).toFinset \ insert "" (base.map (·.name)).toFinset

section Unnamed
variable {base added us l : List Container} {p : Container} {n : String}

/-! ### The names of what is added -/

lemma mem_newNames :
    n ∈ newNames base us ↔ n ∈ us.map (·.name) ∧ n ≠ "" ∧ n ∉ base.map (·.name) := by
  unfold newNames
  rw [Finset.mem_sdiff, Finset.mem_insert, List.mem_toFinset, List.mem_toFinset, not_or]

lemma newNames_of_known (h : p.name = "" ∨ p.name ∈ base.map (·.name)) :
    newNames base (us ++ [p]) = newNames base us := by
  ext n
  rw [mem_newNames, mem_newNames, List.map_append, List.mem_append, List.map_singleton,
    List.mem_singleton]
  constructor
  · rintro ⟨hmem | rfl, hn, hbase⟩
    · exact ⟨hmem, hn, hbase⟩
    · exact absurd h (not_or.mpr ⟨hn, hbase⟩)
  · rintro ⟨hmem, hnew⟩
    exact ⟨.inl hmem, hnew⟩

lemma newNames_of_new (hname : p.name ≠ "") (hbase : p.name ∉ base.map (·.name)) :
    newNames base (us ++ [p]) = insert p.name (newNames base us) := by
  ext n
  rw [Finset.mem_insert, mem_newNames, mem_newNames, List.map_append, List.mem_append,
    List.map_singleton, List.mem_singleton]
  constructor
  · rintro ⟨hmem | rfl, hnew⟩
    · exact .inr ⟨hmem, hnew⟩
    · exact .inl rfl
  · rintro (rfl | ⟨hmem, hnew⟩)
    · exact ⟨.inr rfl, hname, hbase⟩
    · exact ⟨.inl hmem, hnew⟩

/-- The names of the added containers.  Unnamed ones are among them only once the index of the next
override is behind all containers, where it stays. -/
structure NamesAdded (base us added : List Container) : Prop where
  nodup : ((added.map (·.name)).filter (· ≠ "")).Nodup
  mem : ∀ n, n ≠ "" → (n ∈ added.map (·.name) ↔ n ∈ newNames base us)
  behind : "" ∈ added.map (·.name) → base.length + added.length ≤ us.length

/-- An override that brings in no name and adds no container. -/
lemma NamesAdded.of_names_eq (h : NamesAdded base us added)
    (hnames : l.map (·.name) = added.map (·.name))
    (hnew : newNames base (us ++ [p]) = newNames base us) : NamesAdded base (us ++ [p]) l := by
  have hlength : l.length = added.length := by simpa using congrArg List.length hnames
  refine ⟨by rw [hnames]; exact h.nodup, fun n hn => ?_, fun hmem => ?_⟩
  · rw [hnames, hnew]
    exact h.mem n hn
  · rw [hnames] at hmem
    rw [hlength, List.length_append]
    exact (h.behind hmem).trans (Nat.le_add_right _ _)

lemma Adds.names (h : Adds base us added) : NamesAdded base us added := by
  induction h with
  | nil => exact ⟨List.nodup_nil, fun n _ => by simp [newNames], by simp⟩
  | reach h hp ih => exact ih.of_names_eq rfl (newNames_of_known (name_of_overriddenAt? hp))
  | @named us added p h hp hname ih =>
    rw [overriddenAt?_named hname] at hp
    by_cases hknown : p.name ∈ added.map (·.name)
    · refine ih.of_names_eq (by rw [map_name_layNamed, if_pos hknown]) ?_
      rw [newNames_of_new hname hp, Finset.insert_eq_of_mem ((ih.mem _ hname).mp hknown)]
    · have hnames : (layNamed p added).map (·.name) = added.map (·.name) ++ [p.name] := by
        rw [map_name_layNamed, if_neg hknown]
      refine ⟨?_, fun n hn => ?_, fun hmem => ?_⟩
      · rw [hnames, List.filter_append, List.filter_cons_of_pos (by simpa using hname),
          List.filter_nil]
        refine ih.nodup.append (List.nodup_singleton _) ?_
        rw [List.disjoint_singleton]
        exact fun hmem => hknown (List.mem_of_mem_filter hmem)
      · rw [hnames, newNames_of_new hname hp, List.mem_append, List.mem_singleton,
          Finset.mem_insert, ih.mem n hn, or_comm]
      · rw [hnames, List.mem_append, List.mem_singleton] at hmem
        have hle := ih.behind (hmem.resolve_right (Ne.symm hname))
        rw [length_layNamed, if_neg hknown, List.length_append, List.length_singleton]
        omega
  | under h hp hname hlt ih =>
    exact ih.of_names_eq (map_name_modify _ _ _) (newNames_of_known (.inl hname))
  | @own us added p h hp hname hle ih =>
    have hnames : (added ++ [p]).map (·.name) = added.map (·.name) ++ [""] := by
      rw [List.map_append, List.map_singleton, hname]
    refine ⟨?_, fun n hn => ?_, fun _ => ?_⟩
    · rw [hnames, List.filter_append]
      simpa using ih.nodup
    · rw [hnames, List.mem_append, List.mem_singleton, newNames_of_known (.inl hname),
        ← ih.mem n hn, or_iff_left hn]
    · rw [List.length_append, List.length_append, List.length_singleton]
      omega

lemma NamesAdded.card_newNames (h : NamesAdded base us added) :
    (newNames base us).card = ((added.map (·.name)).filter (· ≠ "")).length := by
  rw [← List.toFinset_card_of_nodup h.nodup]
  congr 1
  ext n
  rw [List.mem_toFinset, List.mem_filter, decide_eq_true_eq]
  constructor
  · intro hn
    have hne := (mem_newNames.mp hn).2.1
    exact ⟨(h.mem n hne).mpr hn, hne⟩
  · rintro ⟨hn, hne⟩
    exact (h.mem n hne).mp hn

/-- The index of the next override is that of a container just if the names that were brought in
make it so. -/
lemma Adds.lt_iff (h : Adds base us added) :
    us.length < base.length + added.length ↔
      us.length < base.length + (newNames base us).card := by
  have hcard := h.names.card_newNames
  have hle := List.length_filter_le (fun n => decide (n ≠ "")) (added.map (·.name))
  rw [List.length_map] at hle
  by_cases hunnamed : "" ∈ added.map (·.name)
  -- An unnamed container among the added ones puts both indices out of reach.
  · have hbehind := h.names.behind hunnamed
    omega
  · have hall : (added.map (·.name)).filter (· ≠ "") = added.map (·.name) := by
      rw [List.filter_eq_self]
      intro n hn
      rw [decide_eq_true_eq]
      rintro rfl
      exact hunnamed hn
    rw [hall, List.length_map] at hcard
    rw [hcard]

/-! ### Unnamed overrides that stand alone -/

/-- Overrides as they are added where unnamed ones are containers of their own. -/
def addAll (ps : List Container) : List Container :=
  ps.foldl (fun added p => if p.name = "" then added ++ [p] else layNamed p added) []

/-- No unnamed override that has no container of the base at its index has an added one there. -/
def StandAlone (base ps : List Container) : Prop :=
  ∀ i u, ps[i]? = some u → u.name = "" → base.length ≤ i →
    base.length + (newNames base (ps.take i)).card ≤ i

lemma addAll_concat (ps : List Container) (p : Container) : addAll (ps ++ [p]) =
    if p.name = "" then addAll ps ++ [p] else layNamed p (addAll ps) := List.foldl_append

lemma standAlone_concat : StandAlone base (us ++ [p]) ↔ StandAlone base us ∧
    (p.name = "" → base.length ≤ us.length →
      base.length + (newNames base us).card ≤ us.length) := by
  constructor
  · intro h
    refine ⟨fun i u hu => ?_, ?_⟩
    · have hi : i < us.length := (List.getElem?_eq_some_iff.mp hu).1
      have hi' := h i u ((List.getElem?_append_left hi).trans hu)
      rwa [List.take_append_of_le_length hi.le] at hi'
    · have hlast := h us.length p List.getElem?_concat_length
      rwa [List.take_left] at hlast
  · rintro ⟨h, hp⟩ i u hu
    by_cases hi : i < us.length
    · rw [List.getElem?_append_left hi] at hu
      rw [List.take_append_of_le_length hi.le]
      exact h i u hu
    · have hlast : i = us.length := by
        have hlt := (List.getElem?_eq_some_iff.mp hu).1
        rw [List.length_append, List.length_singleton] at hlt
        omega
      subst hlast
      rw [List.getElem?_concat_length] at hu
      cases hu
      rw [List.take_left]
      exact hp

lemma mem_names_addAll {ps : List Container} (hn : n ≠ "") :
    n ∈ (addAll ps).map (·.name) ↔ n ∈ ps.map (·.name) := by
  induction ps using List.reverseRecOn with
  | nil => rfl
  | append_singleton ps p ih =>
    rw [addAll_concat, List.map_append, List.mem_append, ← ih]
    split
    · rw [List.map_append, List.mem_append]
    · rw [map_name_layNamed]
      split
      next hknown =>
        refine (or_iff_left_of_imp ?_).symm
        rw [List.map_singleton, List.mem_singleton]
        rintro rfl
        exact hknown
      · rw [List.mem_append, List.map_singleton]

lemma mem_names_overridesBehind (hn : n ≠ "") :
    n ∈ (overridesBehind base us).map (·.name) ↔ n ∈ newNames base us := by
  induction us using List.reverseRecOn with
  | nil => simp [overridesBehind, newNames]
  | append_singleton us p ih =>
    rw [overridesBehind_concat]
    cases hp : overriddenAt? base us.length p with
    | some i => rw [if_neg (by simp), ih, newNames_of_known (name_of_overriddenAt? hp)]
    | none =>
      rw [if_pos rfl, List.map_append, List.mem_append, ih, List.map_singleton,
        List.mem_singleton]
      by_cases hname : p.name = ""
      · rw [newNames_of_known (.inl hname), hname, or_iff_left hn]
      · rw [newNames_of_new hname ((overriddenAt?_named hname).mp hp), Finset.mem_insert, or_comm]

lemma Adds.eq_addAll (h : Adds base us added) (halone : StandAlone base us) :
    added = addAll (overridesBehind base us) := by
  induction h with
  | nil => rfl
  | reach h hp ih =>
    rw [overridesBehind_concat, hp, if_neg (by simp)]
    exact ih (standAlone_concat.mp halone).1
  | named h hp hname ih =>
    rw [overridesBehind_concat, if_pos hp, addAll_concat, if_neg hname,
      ← ih (standAlone_concat.mp halone).1]
  | under h hp hname hlt ih =>
    have hle := (standAlone_concat.mp halone).2 hname ((overriddenAt?_unnamed hname).mp hp)
    exact absurd (h.lt_iff.mp hlt) (not_lt.mpr hle)
  | own h hp hname hle ih =>
    rw [overridesBehind_concat, if_pos hp, addAll_concat, if_pos hname,
      ← ih (standAlone_concat.mp halone).1]

/-- An unnamed override that goes under an added container is missed from then on. -/
lemma Adds.length_le_addAll (h : Adds base us added) :
    added.length ≤ (addAll (overridesBehind base us)).length ∧
      (added.length = (addAll (overridesBehind base us)).length → StandAlone base us) := by
  induction h with
  | nil =>
    refine ⟨Nat.le_refl _, fun _ i u hu => ?_⟩
    cases hu
  | reach h hp ih =>
    rw [overridesBehind_concat, hp, if_neg (by simp), standAlone_concat]
    refine ⟨ih.1, fun hlength => ⟨ih.2 hlength, fun hname hbase => ?_⟩⟩
    rw [(overriddenAt?_unnamed hname).mpr hbase] at hp
    cases hp
  | @named us added p h hp hname ih =>
    have hsame : p.name ∈ added.map (·.name) ↔
        p.name ∈ (addAll (overridesBehind base us)).map (·.name) := by
      rw [h.names.mem _ hname, mem_names_addAll hname, mem_names_overridesBehind hname]
    rw [overridesBehind_concat, if_pos hp, addAll_concat, if_neg hname, length_layNamed,
      length_layNamed, standAlone_concat]
    simp only [hsame]
    refine ⟨?_, fun hlength => ⟨ih.2 ?_, fun hunnamed => absurd hunnamed hname⟩⟩
    · split
      · exact ih.1
      · exact Nat.succ_le_succ ih.1
    · split at hlength
      · exact hlength
      · exact Nat.succ_inj.mp hlength
  | under h hp hname hlt ih =>
    -- The one step that adds less than it should; no later one makes up for it.
    rw [overridesBehind_concat, if_pos hp, addAll_concat, if_pos hname, List.length_modify,
      List.length_append, List.length_singleton]
    exact ⟨ih.1.trans (Nat.le_succ _), fun hlength => absurd hlength (Nat.ne_of_lt
      (Nat.lt_succ_of_le ih.1))⟩
  | own h hp hname hle ih =>
    rw [overridesBehind_concat, if_pos hp, addAll_concat, if_pos hname, List.length_append,
      List.length_append, List.length_singleton, standAlone_concat]
    refine ⟨Nat.succ_le_succ ih.1, fun hlength => ⟨ih.2 (Nat.succ_inj.mp hlength), fun _ _ => ?_⟩⟩
    exact not_lt.mp (h.lt_iff.not.mp (not_lt.mpr hle))

end Unnamed

/-- What was there from the start goes under the overrides for it and nothing else.  Unnamed
overrides behind it are containers of their own just if they stand alone. -/
theorem PodSpec.added_eq_addAll_iff (base patch : PodSpec) :
    ∃ added, (base.overlay patch).containers =
        underOverrides base.containers patch.containers ++ added ∧
      Adds base.containers patch.containers added ∧
      (added = addAll (overridesBehind base.containers patch.containers) ↔
        StandAlone base.containers patch.containers) := by
  obtain ⟨added, hrun, hadds⟩ := exists_adds base.containers patch.containers
  refine ⟨added, hrun, hadds, fun heq => ?_, hadds.eq_addAll⟩
  exact hadds.length_le_addAll.2 (congrArg List.length heq)

/-- An unnamed override goes under the container that the one before it has added. -/
example : (overlayContainers 0 [{ (default : Container) with name := "web" }]
    [{ (default : Container) with name := "proxy", image := some "proxy:1" },
      { (default : Container) with image := some "debug:1" }]).map (fun c => (c.name, c.image)) =
    [("web", none), ("proxy", some "debug:1")] := by
  decide

end Manifests
