import Mathlib.Data.List.Nodup
import Manifests.Proofs.Overlay.Container

/-! What becomes of keyed lists under an override.  Entries may be set, removed and set again by one
override: the last one for a key decides, and what the override does not mention stays in its order.
-/
namespace Manifests

namespace KeyedList

variable {α κ : Type} [DecidableEq κ] (key : α → κ) (removes : α → Bool)

/-- One entry of an override.  It removes what has its key, or goes where that stands. -/
def layEntry (l : List α) (entry : α) : List α :=
  if removes entry then l.filter (key · != key entry) else put (key · == key entry) entry l

/-- The last entry for a key. -/
def last? (l : List α) (k : κ) : Option α := l.reverse.find? (key · == k)

/-- The entries that the override does not mention. -/
def unmentioned (patch l : List α) : List α := l.filter fun a => key a ∉ patch.map key

/-- A list under an override.  Keys stay distinct, and the last entry for a key says whether it is
set or removed. -/
structure LaidOver (base patch merged : List α) : Prop where
  distinct : (merged.map key).Nodup
  set : ∀ k a, last? key patch k = some a → removes a = false → a ∈ merged
  removed : ∀ k a, last? key patch k = some a → removes a = true → k ∉ merged.map key
  kept : unmentioned key patch merged = unmentioned key patch base
  known : ∀ k ∈ merged.map key, k ∈ base.map key ∨ k ∈ patch.map key

section Entry
variable {key} {removes} {l base patch merged : List α} {a entry : α}

lemma map_key_put : (put (key · == key entry) entry l).map key =
    if key entry ∈ l.map key then l.map key else l.map key ++ [key entry] := by
  induction l with
  | nil => rfl
  | cons c rest ih =>
    rw [put]
    by_cases hc : key c = key entry
    · simp [hc]
    · rw [if_neg (by simpa using hc), List.map_cons, ih]
      simp only [List.map_cons, List.mem_cons, Ne.symm hc, false_or]
      split <;> rfl

lemma mem_put_iff (h : (l.map key).Nodup) :
    a ∈ put (key · == key entry) entry l ↔ a = entry ∨ a ∈ l ∧ key a ≠ key entry := by
  induction l with
  | nil => simp [put]
  | cons c rest ih =>
    obtain ⟨hc, hrest⟩ := List.nodup_cons.mp (List.map_cons ▸ h)
    rw [put]
    by_cases hkey : key c = key entry
    · have hne : ∀ b ∈ rest, key b ≠ key entry := by
        intro b hb hbe
        exact hc (List.mem_map.mpr ⟨b, hb, hbe.trans hkey.symm⟩)
      rw [if_pos (by simpa using hkey), List.mem_cons, List.mem_cons]
      constructor
      · rintro (rfl | ha)
        · exact .inl rfl
        · exact .inr ⟨.inr ha, hne a ha⟩
      · rintro (rfl | ⟨rfl | ha, hae⟩)
        · exact .inl rfl
        · exact absurd hkey hae
        · exact .inr ha
    · rw [if_neg (by simpa using hkey), List.mem_cons, List.mem_cons, ih hrest]
      constructor
      · rintro (rfl | rfl | ⟨ha, hae⟩)
        · exact .inr ⟨.inl rfl, hkey⟩
        · exact .inl rfl
        · exact .inr ⟨.inr ha, hae⟩
      · rintro (rfl | ⟨rfl | ha, hae⟩)
        · exact .inr (.inl rfl)
        · exact .inl rfl
        · exact .inr (.inr ⟨ha, hae⟩)

lemma nodup_layEntry (h : (l.map key).Nodup) : ((layEntry key removes l entry).map key).Nodup := by
  unfold layEntry
  split
  · exact h.sublist (List.filter_sublist.map key)
  · rw [map_key_put]
    split
    · exact h
    next hnew => simpa using h.concat hnew

/-- What an entry leaves: itself, unless it removes, and what has other keys. -/
lemma mem_layEntry_iff (h : (l.map key).Nodup) :
    a ∈ layEntry key removes l entry ↔
      removes entry = false ∧ a = entry ∨ a ∈ l ∧ key a ≠ key entry := by
  unfold layEntry
  cases removes entry with
  | true => simp
  | false => simpa using mem_put_iff h

/-- Entries of other keys stay in their order. -/
lemma filter_layEntry {p : κ → Bool} (hp : p (key entry) = false) :
    (layEntry key removes l entry).filter (p ∘ key) = l.filter (p ∘ key) := by
  unfold layEntry
  split
  · rw [List.filter_filter]
    refine List.filter_congr fun a _ => ?_
    by_cases ha : key a = key entry <;> simp [ha, hp]
  · have hsame : ∀ a b : α, (key b == key a) = true → (p ∘ key) b = (p ∘ key) a := by
      intro a b hab
      exact congrArg p (beq_iff_eq.mp hab)
    rw [filter_put hsame, if_neg (by simp [hp])]

lemma last?_concat (k : κ) :
    last? key (patch ++ [entry]) k = if key entry = k then some entry else last? key patch k := by
  unfold last?
  rw [List.reverse_append, List.reverse_singleton, List.singleton_append, List.find?_cons]
  by_cases hk : key entry = k
  · simp [hk]
  · rw [if_neg hk, beq_false_of_ne hk]

lemma key_of_last? {k : κ} (h : last? key patch k = some a) : key a = k :=
  beq_iff_eq.mp (List.find?_some (p := (key · == k)) h)

/-- The step of an override. -/
lemma LaidOver.concat (h : LaidOver key removes base patch merged) (entry : α) :
    LaidOver key removes base (patch ++ [entry]) (layEntry key removes merged entry) where
  distinct := nodup_layEntry h.distinct
  set k a ha hset := by
    rw [mem_layEntry_iff h.distinct]
    rw [last?_concat] at ha
    split at ha
    · cases ha
      exact .inl ⟨hset, rfl⟩
    next hk =>
      rw [key_of_last? ha]
      exact .inr ⟨h.set k a ha hset, Ne.symm hk⟩
  removed k a ha hremoves := by
    rw [List.mem_map]
    rintro ⟨b, hb, rfl⟩
    rw [mem_layEntry_iff h.distinct] at hb
    rw [last?_concat] at ha
    split at ha
    next hk =>
      cases ha
      obtain ⟨hset, _⟩ | ⟨_, hne⟩ := hb
      · rw [hremoves] at hset
        cases hset
      · exact hne hk.symm
    next hk =>
      obtain ⟨_, rfl⟩ | ⟨hb, _⟩ := hb
      · exact hk rfl
      · exact h.removed _ a ha hremoves (List.mem_map_of_mem hb)
  kept := by
    have hconcat : ∀ l, unmentioned key (patch ++ [entry]) l =
        (unmentioned key patch l).filter (key · ≠ key entry) := by
      intro l
      unfold unmentioned
      rw [List.filter_filter]
      refine List.filter_congr fun a _ => ?_
      rw [← Bool.decide_and, decide_eq_decide, List.map_append, List.mem_append,
        List.map_singleton, List.mem_singleton, not_or, and_comm]
    have hentry : unmentioned key (patch ++ [entry]) (layEntry key removes merged entry) =
        unmentioned key (patch ++ [entry]) merged :=
      filter_layEntry (p := fun k => decide (k ∉ (patch ++ [entry]).map key)) (by simp)
    rw [hentry, hconcat, hconcat, h.kept]
  known k hk := by
    obtain ⟨a, ha, rfl⟩ := List.mem_map.mp hk
    rw [List.map_append, List.mem_append]
    obtain ⟨_, rfl⟩ | ⟨ha, _⟩ := (mem_layEntry_iff h.distinct).mp ha
    · exact .inr (.inr (List.mem_singleton_self _))
    · exact (h.known _ (List.mem_map_of_mem ha)).imp_right .inl

/-- The whole override. -/
lemma laidOver_foldl (h : (base.map key).Nodup) (patch : List α) :
    LaidOver key removes base patch (patch.foldl (layEntry key removes) base) := by
  induction patch using List.reverseRecOn with
  | nil =>
    refine ⟨h, ?_, ?_, rfl, fun k hk => .inl hk⟩ <;>
    · intro k a ha
      cases ha
  | append_singleton patch entry ih =>
    rw [List.foldl_append]
    exact ih.concat entry

lemma getD_merge? {merge : List α → List α → List α} (hnil : ∀ l, merge l [] = l)
    (base patch : Option (List α)) :
    (merge? merge base patch).getD [] = merge (base.getD []) (patch.getD []) := by
  cases patch with
  | none => exact (hnil _).symm
  | some _ => rfl

end Entry

/-- The keyed lists of a container and of a pod.  A variable without a value removes. -/
theorem laidOver_overlay (c p : Container) (s t : PodSpec) :
    ((c.vars.map EnvVar.name).Nodup →
      LaidOver EnvVar.name EnvVar.isEmpty c.vars p.vars (c.overlay p).vars) ∧
    (((c.ports.getD []).map ContainerPort.containerPort).Nodup →
      LaidOver ContainerPort.containerPort (fun _ => false) (c.ports.getD []) (p.ports.getD [])
        ((c.overlay p).ports.getD [])) ∧
    (((c.volumeMounts.getD []).map VolumeMount.mountPath).Nodup →
      LaidOver VolumeMount.mountPath (fun _ => false) (c.volumeMounts.getD [])
        (p.volumeMounts.getD []) ((c.overlay p).volumeMounts.getD [])) ∧
    (((s.volumes.getD []).map Volume.name).Nodup →
      LaidOver Volume.name (fun _ => false) (s.volumes.getD []) (t.volumes.getD [])
        ((s.overlay t).volumes.getD [])) := by
  have hvars : (c.overlay p).vars = p.vars.foldl (layEntry EnvVar.name EnvVar.isEmpty) c.vars :=
    getD_merge? (fun _ => rfl) c.env p.env
  have hports : (c.overlay p).ports.getD [] = (p.ports.getD []).foldl
      (layEntry ContainerPort.containerPort fun _ => false) (c.ports.getD []) :=
    getD_merge? (fun _ => rfl) c.ports p.ports
  have hmounts : (c.overlay p).volumeMounts.getD [] = (p.volumeMounts.getD []).foldl
      (layEntry VolumeMount.mountPath fun _ => false) (c.volumeMounts.getD []) :=
    getD_merge? (fun _ => rfl) c.volumeMounts p.volumeMounts
  have hvolumes : (s.overlay t).volumes.getD [] = (t.volumes.getD []).foldl
      (layEntry Volume.name fun _ => false) (s.volumes.getD []) :=
    getD_merge? (fun _ => rfl) s.volumes t.volumes
  rw [hvars, hports, hmounts, hvolumes]
  exact ⟨fun h => laidOver_foldl h _, fun h => laidOver_foldl h _, fun h => laidOver_foldl h _,
    fun h => laidOver_foldl h _⟩

/-- A variable with a value, which removes if that is empty. -/
def setting (name value : String) : EnvVar :=
  { (default : EnvVar) with name, value := some value }

def exposing (port : Int32) (name : String) : ContainerPort :=
  { (default : ContainerPort) with containerPort := port, name := some name }

def mounting (name path : String) : VolumeMount :=
  { (default : VolumeMount) with name, mountPath := path }

def claiming (name claim : String) : Volume :=
  { (default : Volume) with
    name, persistentVolumeClaim := some { claimName := claim, readOnly := none } }

def worker : Container :=
  { (default : Container) with
    env := some [setting "LEVEL" "info", setting "ZONE" "a"]
    ports := some [exposing 8080 "http", exposing 9090 "admin"]
    volumeMounts := some [mounting "data" "/data"] }

/-- An override that removes a level and sets it again, and sets a zone and removes it. -/
def resetting : Container :=
  { (default : Container) with
    env := some [setting "LEVEL" "", setting "ZONE" "b", setting "LEVEL" "debug", setting "ZONE" ""]
    ports := some [exposing 9090 "metrics", exposing 9090 "status"]
    volumeMounts := some [mounting "cache" "/data"] }

def podOf (volumes : List Volume) : PodSpec := { (default : PodSpec) with volumes := some volumes }

theorem laidOver_overlay_resetting :
    ((worker.vars.map EnvVar.name).Nodup ∧
      setting "LEVEL" "debug" ∈ (worker.overlay resetting).vars ∧
      "ZONE" ∉ (worker.overlay resetting).vars.map EnvVar.name) ∧
    (((worker.ports.getD []).map ContainerPort.containerPort).Nodup ∧
      exposing 9090 "status" ∈ (worker.overlay resetting).ports.getD []) ∧
    (((worker.volumeMounts.getD []).map VolumeMount.mountPath).Nodup ∧
      mounting "cache" "/data" ∈ (worker.overlay resetting).volumeMounts.getD []) ∧
    ((((podOf [claiming "data" "old"]).volumes.getD []).map Volume.name).Nodup ∧
      claiming "data" "new" ∈ ((podOf [claiming "data" "old"]).overlay
        (podOf [claiming "data" "new"])).volumes.getD []) := by
  obtain ⟨hvars, hports, hmounts, hvolumes⟩ := laidOver_overlay worker resetting
    (podOf [claiming "data" "old"]) (podOf [claiming "data" "new"])
  have hvars := hvars (by decide)
  have hports := hports (by decide)
  have hmounts := hmounts (by decide)
  have hvolumes := hvolumes (by decide)
  refine ⟨⟨by decide, ?_, ?_⟩, ⟨by decide, ?_⟩, ⟨by decide, ?_⟩, by decide, ?_⟩
  · exact hvars.set "LEVEL" _ (by decide) (by decide)
  · exact hvars.removed "ZONE" (setting "ZONE" "") (by decide) (by decide)
  · exact hports.set 9090 _ (by decide) rfl
  · exact hmounts.set "/data" _ (by decide) rfl
  · exact hvolumes.set "data" _ (by decide) rfl

end KeyedList
end Manifests
