import Mathlib.Data.List.Nodup
import Manifests.Proofs.Run

/-!
From descriptors to the enrichers that run.  The entries that are read have distinct names and
ascending orders, each is made by its registered factory, and the selection names those that run;
what is missing on the way is named by its first occurrence.
-/
namespace Manifests

variable {α β ε : Type}

/-- A list of look-ups fails for the first item that is not found. -/
lemma Except.mapM_eq_error_iff {f : α → Except ε β} {found : α → Bool} {missing : α → ε}
    (hf : ∀ x error, f x = .error error ↔ found x = false ∧ error = missing x) {xs : List α}
    {error : ε} :
    xs.mapM f = .error error ↔ ∃ x, xs.find? (!found ·) = some x ∧ error = missing x := by
  induction xs with
  | nil => simp [pure, Except.pure]
  | cons x xs ih =>
    have hrest : ∀ y, (xs.mapM f >>= fun ys => pure (y :: ys)) = .error error ↔
        xs.mapM f = .error error := by
      intro y
      cases xs.mapM f <;> simp [Bind.bind, Except.bind, pure, Except.pure]
    rw [List.mapM_cons, List.find?_cons]
    cases hx : found x with
    | false =>
      rw [(hf x (missing x)).mpr ⟨hx, rfl⟩]
      simp [Bind.bind, Except.bind, eq_comm]
    | true =>
      obtain ⟨y, hy⟩ : ∃ y, f x = .ok y := by
        cases hfx : f x with
        | ok y => exact ⟨y, rfl⟩
        | error other =>
          have hmissing := ((hf x other).mp hfx).1
          rw [hx] at hmissing
          cases hmissing
      rw [hy]
      exact (hrest y).trans ih

/-! ### Descriptors -/

namespace Descriptor

/-- A source that names no file. -/
def IsInline (files : FileTree) (source : String) : Prop :=
  source.contains '\n' = true ∨ files.isFile (Text.trim source) = false

lemma sourceText_of_isInline {files : FileTree} {source : String} (h : IsInline files source) :
    sourceText files source = .ok source := by
  unfold sourceText
  obtain h | h := h <;> simp [h]

/-- Inline sources are read as they are. -/
lemma sources_of_isInline {files : FileTree} {more : List String}
    (h : ∀ source ∈ more, IsInline files source) :
    sources files more = .ok (standard :: more) := by
  have hmore : more.mapM (sourceText files) = .ok more :=
    Except.mapM_eq_ok_iff.mpr
      (List.forall₂_same.mpr fun source hsource => sourceText_of_isInline (h source hsource))
  unfold sources
  rw [hmore]
  rfl

namespace Reading

variable {r : Reading}

/-- The entries are told apart by their names. -/
def Distinct (r : Reading) : Prop := (r.entries.map (·.name)).Nodup

lemma Distinct.remove (h : r.Distinct) (name : String) : (r.remove name).Distinct :=
  List.Nodup.sublist (List.filter_sublist.map Entry.name) h

/-- An entry is added where no other one has its name. -/
lemma Distinct.appended (h : r.Distinct) (entry : Entry) :
    (((r.remove entry.name).entries ++ [entry]).map (·.name)).Nodup := by
  rw [List.map_append, List.map_singleton]
  refine List.Nodup.append (h.remove entry.name) (List.nodup_singleton entry.name) ?_
  rw [List.disjoint_singleton]
  intro hname
  obtain ⟨other, hother, heq⟩ := List.mem_map.mp hname
  exact bne_iff_ne.mp (List.mem_filter.mp hother).2 heq

lemma Distinct.add (h : r.Distinct) (name : String) (order : Option Int32) :
    (r.add name order).Distinct := by
  cases order with
  | none => exact h.appended ⟨name, r.nextOrder⟩
  | some order => exact h.appended ⟨name, order.toInt⟩

lemma Distinct.line (h : r.Distinct) (line : List Char) : (r.line line).Distinct := by
  unfold Reading.line
  split
  next => exact h
  next => exact h
  next =>
    split
    next name _ _ => exact h.remove (String.ofList (Text.trimChars name))
    next name order _ _ => exact h.add (String.ofList name) order

lemma Distinct.lines (h : r.Distinct) (lines : List (List Char)) :
    (lines.foldl Reading.line r).Distinct := by
  induction lines generalizing r with
  | nil => exact h
  | cons line lines ih => exact ih (h.line line)

end Reading

/-- Whatever is read, no two entries have the same name. -/
lemma nodup_names_parse (sources : List String) : ((parse sources).map (·.name)).Nodup := by
  have hstart : start.Distinct := List.nodup_nil
  exact ((List.mergeSort_perm _ _).map _).nodup_iff.mpr (hstart.lines _)

lemma pairwise_order_parse (sources : List String) :
    (parse sources).Pairwise fun a b => a.order ≤ b.order := by
  have hsorted : (parse sources).Pairwise fun a b => decide (a.order ≤ b.order) = true :=
    List.pairwise_mergeSort (by simpa using fun (a b c : Entry) => Int.le_trans)
      (by simpa using fun (a b : Entry) => Int.le_total a.order b.order) _
  simpa using hsorted

/-- Entries whose orders ascend as they are read stay in place. -/
lemma parse_of_pairwise {sources : List String} {entries : List Entry}
    (hread : ((sources.flatMap fun s => Text.lines s.toList).foldl Reading.line start).entries =
      entries)
    (hsorted : entries.Pairwise fun a b => a.order ≤ b.order) : parse sources = entries := by
  rw [parse, hread]
  exact List.mergeSort_of_pairwise (by simpa using hsorted)

/-- Other sources are read behind the standard entries. -/
lemma read_standard_cons (more : List String) :
    ((standard :: more).flatMap fun s => Text.lines s.toList).foldl Reading.line start =
      (more.flatMap fun s => Text.lines s.toList).foldl Reading.line
        ⟨standardEntries, firstOrder + StandardEnricher.all.length⟩ := by
  have hstandard := read_standard
  rw [List.flatMap_cons, List.flatMap_nil, List.append_nil] at hstandard
  rw [List.flatMap_cons, List.foldl_append, hstandard]

/-- The first entry that no factory is registered for. -/
def unregistered? (registry : List Enricher.Factory) (entries : List Entry) : Option Entry :=
  entries.find? fun entry => !registry.any (·.name == entry.name)

lemma factories_eq_error_iff {registry : List Enricher.Factory} {entries : List Entry}
    {error : Error} :
    factories registry entries = .error error ↔
      ∃ entry, unregistered? registry entries = some entry ∧
        error = .unknownEnricher entry.name := by
  refine Except.mapM_eq_error_iff fun entry error => ?_
  rw [← List.isSome_find?]
  cases registry.find? (·.name == entry.name) <;> simp [eq_comm]

/-- The enricher that the first registered factory of an entry's name makes. -/
def Entry.Makes (registry : List Enricher.Factory) (c : Enricher.Context) (entry : Entry)
    (enricher : Enricher) : Prop :=
  ∃ factory, registry.find? (·.name == entry.name) = some factory ∧ factory.make c = enricher

lemma Entry.Makes.name_eq {registry : List Enricher.Factory} {c : Enricher.Context} {entry : Entry}
    {enricher : Enricher} (h : entry.Makes registry c enricher) : enricher.name = entry.name := by
  obtain ⟨factory, hfind, rfl⟩ := h
  rw [factory.name_make]
  have hname := List.find?_some hfind
  exact beq_iff_eq.mp hname

lemma map_name_of_forall₂_makes {registry : List Enricher.Factory} {c : Enricher.Context}
    {entries : List Entry} {enrichers : List Enricher}
    (h : List.Forall₂ (Entry.Makes registry c) entries enrichers) :
    enrichers.map (·.name) = entries.map (·.name) := by
  rw [← List.forall₂_eq_eq_eq, List.forall₂_map_left_iff, List.forall₂_map_right_iff]
  exact h.flip.imp fun _ _ => Entry.Makes.name_eq

lemma forall₂_makes_of_factories {registry found : List Enricher.Factory} {entries : List Entry}
    (h : factories registry entries = .ok found) (c : Enricher.Context) :
    List.Forall₂ (Entry.Makes registry c) entries (found.map (·.make c)) := by
  rw [List.forall₂_map_right_iff]
  refine (Except.mapM_eq_ok_iff.mp h).imp fun entry factory hentry => ?_
  split at hentry
  next hfind => exact ⟨factory, by rw [hfind, Except.ok.inj hentry], rfl⟩
  next => cases hentry

end Descriptor

/-! ### Selections -/

namespace Config.Selection

variable {s : Selection} {nameOf : α → String} {items active : List α} {kind : String}

/-- The first include that names no item. -/
def undiscovered? (s : Selection) (nameOf : α → String) (items : List α) : Option String :=
  (s.includes.getD []).find? fun name => !items.any (nameOf · == name)

lemma undiscovered?_map_id :
    s.undiscovered? id (items.map nameOf) = s.undiscovered? nameOf items := by
  simp [undiscovered?, List.any_map, Function.comp_def]

/-- Active items are what the selection says: the included ones, by name and in the order of the
includes, or with no includes all that are not excluded. -/
def Activates (s : Selection) (nameOf : α → String) (items active : List α) : Prop :=
  match s.includes with
  | some names => active.map nameOf = names ∧ ∀ item ∈ active, item ∈ items
  | none => active = items.filter fun item => !s.excludes.contains (nameOf item)

lemma prepare_eq_error_iff {error : Error} :
    s.prepare kind nameOf items = .error error ↔
      ∃ name, s.undiscovered? nameOf items = some name ∧ error = .unknownInclude kind name := by
  have hprepare : s.prepare kind nameOf items = .error error ↔
      s.order kind nameOf items = .error error := by
    unfold prepare
    rw [Except.bind_eq_error]
    exact or_iff_left (by rintro ⟨_, _, ⟨⟩⟩)
  rw [hprepare]
  unfold order undiscovered?
  cases s.includes with
  | none => simp
  | some names =>
    refine Except.mapM_eq_error_iff fun wanted error => ?_
    rw [← List.any_reverse, ← List.isSome_find?]
    cases items.reverse.find? (nameOf · == wanted) <;> simp [eq_comm]

lemma exists_prepare_of_undiscovered (h : s.undiscovered? nameOf items = none) :
    ∃ active, s.prepare kind nameOf items = .ok active := by
  cases hprepare : s.prepare kind nameOf items with
  | ok active => exact ⟨active, rfl⟩
  | error error =>
    obtain ⟨name, hname, _⟩ := prepare_eq_error_iff.mp hprepare
    rw [h] at hname
    cases hname

lemma activates_of_prepare (h : s.prepare kind nameOf items = .ok active) :
    s.Activates nameOf items active := by
  have hmem := mem_of_prepare h
  have hchooses := prepare_eq_ok_iff.mp h
  unfold Chooses at hchooses
  unfold Activates
  split at hchooses
  next hnone =>
    rw [hnone]
    exact hchooses
  next names hsome =>
    rw [hsome]
    refine ⟨?_, hmem⟩
    have hnames : List.Forall₂ (fun name item => nameOf item = name) names active := by
      refine hchooses.imp fun name item hitem => ?_
      have hname := List.find?_some hitem
      exact beq_iff_eq.mp hname
    rw [← List.forall₂_eq_eq_eq, List.forall₂_map_left_iff]
    exact hnames.flip

end Config.Selection

end Manifests
