import Manifests.Proofs.Overlay.Containers

/-! The containers that overrides are for, whatever their mix.  What was there from the start goes
under the overrides that are for it, and the others make what stands behind. -/
namespace Manifests

/-- The overrides for the container at the index, by what was there from the start. -/
def overridesAt (base : List Container) (i : Nat) (us : List Container) : List Container :=
  (us.zipIdx.filter fun e => overriddenAt? base e.2 e.1 = some i).map Prod.fst

/-- The overrides for none of the containers that were there from the start. -/
def overridesBehind (base us : List Container) : List Container :=
  (us.zipIdx.filter fun e => overriddenAt? base e.2 e.1 = none).map Prod.fst

/-- The containers that were there from the start, each under the overrides for it. -/
def underOverrides (base us : List Container) : List Container :=
  base.mapIdx fun i c => (overridesAt base i us).foldl Container.overlay c

/-- What overrides add behind the containers of the base.  An unnamed one goes under an added
container whenever its index is that of one. -/
inductive Adds (base : List Container) : List Container → List Container → Prop
  | nil : Adds base [] []
  | reach {us added p i} (h : Adds base us added) (hp : overriddenAt? base us.length p = some i) :
    Adds base (us ++ [p]) added
  | named {us added p} (h : Adds base us added) (hp : overriddenAt? base us.length p = none)
    (hname : p.name ≠ "") : Adds base (us ++ [p]) (layNamed p added)
  | under {us added p} (h : Adds base us added) (hp : overriddenAt? base us.length p = none)
    (hname : p.name = "") (hlt : us.length < base.length + added.length) :
    Adds base (us ++ [p]) (added.modify (us.length - base.length) (·.overlay p))
  | own {us added p} (h : Adds base us added) (hp : overriddenAt? base us.length p = none)
    (hname : p.name = "") (hle : base.length + added.length ≤ us.length) :
    Adds base (us ++ [p]) (added ++ [p])

section Places
variable {base front added us l l' : List Container} {p : Container} {i k : Nat}

/-! ### The place of an override -/

lemma findIdx?_name (l : List Container) (n : String) :
    l.findIdx? (·.name == n) = (l.map (·.name)).findIdx? (· == n) := by
  rw [List.findIdx?_map]
  rfl

/-- Places go by the names. -/
lemma overriddenAt?_congr (h : l.map (·.name) = l'.map (·.name)) (k : Nat) (p : Container) :
    overriddenAt? l k p = overriddenAt? l' k p := by
  have hlength : l.length = l'.length := by simpa using congrArg List.length h
  unfold overriddenAt?
  rw [findIdx?_name, findIdx?_name, h, hlength]

lemma overriddenAt?_append (h : overriddenAt? front k p = some i) :
    overriddenAt? (front ++ added) k p = some i := by
  unfold overriddenAt? at h ⊢
  split at h
  next hname =>
    split at h
    next hk =>
      cases h
      rw [if_pos hname, if_pos (Nat.lt_of_lt_of_le hk (by simp))]
    next => cases h
  next hname => rw [if_neg hname, List.findIdx?_append, h, Option.some_or]

lemma lt_of_overriddenAt? (h : overriddenAt? l k p = some i) : i < l.length := by
  unfold overriddenAt? at h
  split at h
  · split at h
    next hk =>
      cases h
      exact hk
    next => cases h
  · exact (List.findIdx?_eq_some_iff_findIdx_eq.mp h).1

lemma overriddenAt?_unnamed (hname : p.name = "") :
    overriddenAt? l k p = none ↔ l.length ≤ k := by
  unfold overriddenAt?
  rw [if_pos hname]
  split <;> simp <;> omega

lemma overriddenAt?_named (hname : p.name ≠ "") :
    overriddenAt? l k p = none ↔ p.name ∉ l.map (·.name) := by
  unfold overriddenAt?
  rw [if_neg hname, List.findIdx?_eq_none_iff]
  simp

lemma name_of_overriddenAt? (h : overriddenAt? l k p = some i) :
    p.name = "" ∨ p.name ∈ l.map (·.name) := by
  by_contra hnew
  obtain ⟨hname, hl⟩ := not_or.mp hnew
  rw [(overriddenAt?_named hname).mpr hl] at h
  cases h

/-! ### One override -/

lemma modify_front (hi : i < front.length) (f : Container → Container) :
    (front ++ added).modify i f = front.modify i f ++ added := by
  rw [← List.take_append_drop front.length ((front ++ added).modify i f), List.take_modify,
    List.drop_modify_of_lt f i front.length _ hi, List.take_left, List.drop_left]

lemma modify_behind (hk : front.length ≤ k) (f : Container → Container) :
    (front ++ added).modify k f = front ++ added.modify (k - front.length) f := by
  obtain ⟨j, rfl⟩ := Nat.exists_eq_add_of_le hk
  rw [Nat.add_sub_cancel_left, List.modify_eq_take_drop, List.modify_eq_take_drop,
    List.take_length_add_append, List.drop_length_add_append, List.append_assoc]

lemma overlayContainers_of_some (h : overriddenAt? l k p = some i) :
    overlayContainers k l [p] = l.modify i (·.overlay p) := by
  rw [overlayContainers, h]
  rfl

lemma overlayContainers_of_none (h : overriddenAt? l k p = none) :
    overlayContainers k l [p] = l ++ [p] := by
  rw [overlayContainers, h]
  rfl

lemma overlayContainers_of_unnamed (hname : p.name = "") (hk : k < l.length) :
    overlayContainers k l [p] = l.modify k (·.overlay p) := by
  refine overlayContainers_of_some ?_
  rw [overriddenAt?, if_pos hname, if_pos hk]

lemma map_name_layNamed : (layNamed p l).map (·.name) =
    if p.name ∈ l.map (·.name) then l.map (·.name) else l.map (·.name) ++ [p.name] := by
  induction l with
  | nil => rfl
  | cons c rest ih =>
    rw [layNamed]
    by_cases hc : c.name = p.name
    · simp [hc]
    · rw [if_neg (by simpa using hc), List.map_cons, ih]
      simp only [List.map_cons, List.mem_cons, Ne.symm hc, false_or]
      split <;> rfl

lemma length_layNamed : (layNamed p l).length =
    if p.name ∈ l.map (·.name) then l.length else l.length + 1 := by
  have hlength := congrArg List.length (map_name_layNamed (p := p) (l := l))
  rw [List.length_map] at hlength
  rw [hlength]
  split <;> simp

lemma map_name_modify (l : List Container) (i : Nat) (p : Container) :
    (l.modify i (·.overlay p)).map (·.name) = l.map (·.name) := by
  refine List.ext_getElem? fun j => ?_
  rw [List.getElem?_map, List.getElem?_map, List.getElem?_modify, Option.map_eq_map,
    Option.map_map]
  refine Option.map_congr fun c _ => ?_
  change (if i = j then c.overlay p else c).name = c.name
  split <;> rfl

/-! ### Runs -/

lemma overridesAt_concat : overridesAt base i (us ++ [p]) =
    if overriddenAt? base us.length p = some i then overridesAt base i us ++ [p]
      else overridesAt base i us := by
  unfold overridesAt
  rw [List.zipIdx_append, List.filter_append, List.map_append, Nat.zero_add]
  split <;> simp_all

lemma overridesBehind_concat : overridesBehind base (us ++ [p]) =
    if overriddenAt? base us.length p = none then overridesBehind base us ++ [p]
      else overridesBehind base us := by
  unfold overridesBehind
  rw [List.zipIdx_append, List.filter_append, List.map_append, Nat.zero_add]
  split <;> simp_all

lemma name_foldl_overlay (ps : List Container) (c : Container) :
    (ps.foldl Container.overlay c).name = c.name := by
  induction ps generalizing c with
  | nil => rfl
  | cons p ps ih => exact ih (c.overlay p)

lemma map_name_underOverrides (base us : List Container) :
    (underOverrides base us).map (·.name) = base.map (·.name) := by
  refine List.ext_getElem? fun i => ?_
  rw [underOverrides, List.getElem?_map, List.getElem?_mapIdx, List.getElem?_map, Option.map_map]
  exact Option.map_congr fun c _ => name_foldl_overlay _ c

lemma underOverrides_nil (base : List Container) : underOverrides base [] = base := by
  refine List.ext_getElem? fun i => ?_
  rw [underOverrides, List.getElem?_mapIdx]
  exact Option.map_id_apply

lemma underOverrides_of_some (h : overriddenAt? base us.length p = some i) :
    underOverrides base (us ++ [p]) = (underOverrides base us).modify i (·.overlay p) := by
  refine List.ext_getElem? fun j => ?_
  rw [underOverrides, underOverrides, List.getElem?_modify, List.getElem?_mapIdx,
    List.getElem?_mapIdx, Option.map_eq_map, Option.map_map]
  refine Option.map_congr fun c _ => ?_
  rw [overridesAt_concat, h]
  by_cases hij : i = j
  · simp [hij, List.foldl_append]
  · simp [hij]

lemma underOverrides_of_none (h : overriddenAt? base us.length p = none) :
    underOverrides base (us ++ [p]) = underOverrides base us := by
  unfold underOverrides
  congr 1
  funext i c
  rw [overridesAt_concat, h, if_neg (by simp)]

lemma length_underOverrides (base us : List Container) :
    (underOverrides base us).length = base.length := List.length_mapIdx

/-- What was there from the start stays in front, under the overrides for it. -/
lemma exists_adds (base us : List Container) :
    ∃ added, overlayContainers 0 base us = underOverrides base us ++ added ∧
      Adds base us added := by
  induction us using List.reverseRecOn with
  | nil => exact ⟨[], by rw [underOverrides_nil, List.append_nil]; rfl, .nil⟩
  | append_singleton us p ih =>
    obtain ⟨added, hrun, hadds⟩ := ih
    have hnames := map_name_underOverrides base us
    have hlength := length_underOverrides base us
    have hplace := overriddenAt?_congr hnames us.length p
    rw [overlayContainers_append, hrun, Nat.zero_add]
    cases hp : overriddenAt? base us.length p with
    | some i =>
      refine ⟨added, ?_, hadds.reach hp⟩
      rw [hp] at hplace
      rw [overlayContainers_of_some (overriddenAt?_append hplace), underOverrides_of_some hp,
        modify_front (lt_of_overriddenAt? hplace)]
    | none =>
      rw [underOverrides_of_none hp]
      by_cases hname : p.name = ""
      · have hbase := (overriddenAt?_unnamed hname).mp hp
        by_cases hlt : us.length < base.length + added.length
        · refine ⟨_, ?_, hadds.under hp hname hlt⟩
          rw [overlayContainers_of_unnamed hname (by simpa [hlength] using hlt),
            modify_behind (hlength ▸ hbase), hlength]
        · refine ⟨_, ?_, hadds.own hp hname (Nat.le_of_not_lt hlt)⟩
          rw [overlayContainers_of_none, List.append_assoc]
          rw [overriddenAt?_unnamed hname, List.length_append, hlength]
          exact Nat.le_of_not_lt hlt
      · refine ⟨_, ?_, hadds.named hp hname⟩
        rw [overlayContainers_cons_named hname, layNamed_append]
        · rfl
        · intro c hc hcp
          refine (overriddenAt?_named hname).mp hp ?_
          rw [← hnames, ← hcp]
          exact List.mem_map_of_mem hc

end Places
end Manifests
