import Mathlib.Data.List.Induction
import Manifests.Proofs.Discovery
import Manifests.Proofs.Numerals
import Manifests.Proofs.Text

/-!
What descriptors say about a name.  Every line adds a name, removes one or says nothing, and the
last line about a name decides: the entries that are read are those that their last lines add, in
the order of these lines where their own orders are equal.
-/
namespace Manifests

/-- A stable sort keeps items of equal rank in the order in which they were. -/
lemma pairwise_mergeSort_of_pairwise {α : Type} (le : α → α → Bool) {R : α → α → Prop} {l : List α}
    (htrans : ∀ a b c, le a b = true → le b c = true → le a c = true)
    (htotal : ∀ a b, (le a b || le b a) = true) (h : l.Pairwise R) :
    (l.mergeSort le).Pairwise fun a b => le a b = true ∧ (le b a = true → R a b) := by
  rw [← List.mergeSort_zipIdx, List.pairwise_map]
  have hperm := List.mergeSort_perm l.zipIdx (List.zipIdxLE le)
  have hsorted := List.pairwise_mergeSort (List.zipIdxLE_trans htrans) (List.zipIdxLE_total htotal)
    l.zipIdx
  have hplaces : (l.zipIdx.mergeSort (List.zipIdxLE le)).Pairwise fun a b => a.2 ≠ b.2 := by
    rw [← List.pairwise_map, (hperm.map _).pairwise_iff Ne.symm, List.zipIdx_map_snd]
    exact List.nodup_range'
  refine (hsorted.and hplaces).imp_of_mem fun {a b} ha hb hab => ?_
  obtain ⟨hle, hne⟩ := hab
  rw [List.zipIdxLE] at hle
  split at hle
  next hforth =>
    refine ⟨hforth, fun hback => ?_⟩
    rw [if_pos hback, decide_eq_true_eq] at hle
    obtain ⟨hi, ha⟩ := List.getElem?_eq_some_iff.mp
      (List.mem_zipIdx_iff_getElem?.mp (hperm.mem_iff.mp ha))
    obtain ⟨hj, hb⟩ := List.getElem?_eq_some_iff.mp
      (List.mem_zipIdx_iff_getElem?.mp (hperm.mem_iff.mp hb))
    rw [← ha, ← hb]
    exact List.pairwise_iff_getElem.mp h a.2 b.2 hi hj (by omega)
  next => cases hle

namespace Descriptor

/-! ### What lines say -/

/-- What a line says about a name: that it is added, perhaps with a number as its order, or that
it is removed. -/
inductive Statement where
  | adds (name : String) (number : Option Int32)
  | removes (name : String)

namespace Statement

def name : Statement → String
  | adds name _ => name
  | removes name => name

/-- A name is added without a number. -/
def isUnnumbered : Option Statement → Bool
  | some (adds _ none) => true
  | _ => false

end Statement

/-- What stands in front of the first comma of a text, and what behind it if there is one. -/
inductive CutsAtComma : List Char → List Char → Option (List Char) → Prop
  | whole {text : List Char} (h : ',' ∉ text) : CutsAtComma text text none
  | cut {head tail : List Char} (h : ',' ∉ head) :
    CutsAtComma (head ++ ',' :: tail) head (some tail)

/-- The number that a text is without the blanks around it, if it is one of 32 bits. -/
def Numbers (text : Option (List Char)) (number : Option Int32) : Prop :=
  ∀ n : Int32, number = some n ↔
    ∃ cs ∈ text, ∃ numeral, Text.Trims cs numeral ∧ Text.IsDecimal numeral n.toInt

/-- What a line says without the blanks around it.  A comment says nothing, an exclamation mark
removes a name, and every other line adds one.  The name ends at the first comma, and behind that
may be a number. -/
inductive Says (line : List Char) : Option Statement → Prop
  | blank (text : Text.Trims line []) : Says line none
  | comment {rest : List Char} (text : Text.Trims line ('#' :: rest)) : Says line none
  | removes {rest head name : List Char} {tail : Option (List Char)}
    (text : Text.Trims line ('!' :: rest)) (cuts : CutsAtComma rest head tail)
    (trims : Text.Trims head name) : Says line (some (.removes (String.ofList name)))
  | adds {c : Char} {rest head name : List Char} {tail : Option (List Char)}
    {number : Option Int32} (text : Text.Trims line (c :: rest)) (hcomment : c ≠ '#')
    (hremoval : c ≠ '!') (cuts : CutsAtComma (c :: rest) head tail)
    (trims : Text.Trims head name) (numbers : Numbers tail number) :
    Says line (some (.adds (String.ofList name) number))

/-- What the lines of all sources say, line by line.  A carriage return at the end of a line is
blank, and so is what stands behind a final line break. -/
def Tells (sources : List String) (history : List (Option Statement)) : Prop :=
  List.Forall₂ Says (sources.flatMap fun s => s.toList.splitOn '\n') history

/-- The order of a name that is added behind the lines so far: its number, or 100 and one more for
every name before it that was added without a number. -/
def orderBehind (history : List (Option Statement)) : Option Int32 → Int
  | some number => number.toInt
  | none => 100 + history.countP Statement.isUnnumbered

/-- The line with this number adds the entry, and no later line says anything about its name. -/
def DeclaredAt (history : List (Option Statement)) (entry : Entry) (i : Nat) : Prop :=
  ∃ number, history[i]? = some (some (.adds entry.name number)) ∧
    entry.order = orderBehind (history.take i) number ∧
    ∀ s, some s ∈ history.drop (i + 1) → s.name ≠ entry.name

/-- These entries are what the lines say in the end.  Each name stands once, its order and the line
that declares it ascend together, and nothing else is declared. -/
structure Describes (history : List (Option Statement)) (entries : List Entry) : Prop where
  mem_iff : ∀ entry, entry ∈ entries ↔ ∃ i, DeclaredAt history entry i
  nodup : (entries.map (·.name)).Nodup
  ascending : entries.Pairwise fun a b => ∀ i j, DeclaredAt history a i → DeclaredAt history b j →
    a.order < b.order ∨ a.order = b.order ∧ i < j

section Lines
variable {line text head head' : List Char} {tail tail' : Option (List Char)}
  {said said' : Option Statement} {number : Option Int32} {c : Char}

lemma exists_cutsAtComma (text : List Char) : ∃ head tail, CutsAtComma text head tail := by
  by_cases h : ',' ∈ text
  · obtain ⟨head, tail, rfl, hhead⟩ := List.eq_append_cons_of_mem h
    exact ⟨head, some tail, .cut hhead⟩
  · exact ⟨text, none, .whole h⟩

lemma CutsAtComma.cut_eq (h : CutsAtComma text head tail) :
    (Text.cutFirst? ',' text).elim (text, none) (fun cut => (cut.1, some cut.2)) =
      (head, tail) := by
  cases h with
  | whole h => rw [Text.cutFirst?_eq_none_iff.mpr h, Option.elim_none]
  | cut h => rw [Text.cutFirst?_append h, Option.elim_some]

lemma CutsAtComma.unique (h : CutsAtComma text head tail) (h' : CutsAtComma text head' tail') :
    head = head' ∧ tail = tail' :=
  Prod.mk.inj (h.cut_eq.symm.trans h'.cut_eq)

/-- A character other than the comma belongs to what stands in front of it. -/
lemma CutsAtComma.cons (h : CutsAtComma text head tail) (hc : c ≠ ',') :
    CutsAtComma (c :: text) (c :: head) tail := by
  cases h with
  | whole h => exact .whole (List.not_mem_cons_of_ne_of_not_mem (Ne.symm hc) h)
  | cut h => exact .cut (List.not_mem_cons_of_ne_of_not_mem (Ne.symm hc) h)

lemma CutsAtComma.isPrefix (h : CutsAtComma text head tail) : head <+: text := by
  cases h with
  | whole h => exact List.prefix_refl _
  | cut h => exact List.prefix_append _ _

lemma CutsAtComma.parts_eq (h : CutsAtComma text head tail) : parts text =
    (Text.trimChars head, tail.bind fun cs => Text.int32? (Text.trimChars cs)) := by
  unfold parts
  cases h with
  | whole h => rw [Text.cutFirst?_eq_none_iff.mpr h, Option.bind_none]
  | cut h => rw [Text.cutFirst?_append h, Option.bind_some]

/-- A front of a text without blanks before it begins as the text does. -/
lemma first_eq_of_trims {d : Char} {front : List Char} (hc : Text.isBlankChar c = false)
    (hfront : head <+: c :: text) (trims : Text.Trims head (d :: front)) : d = c := by
  have htrim := trims.trimChars_eq
  cases head with
  | nil => cases htrim
  | cons e head =>
    obtain ⟨rfl, -⟩ := List.cons_prefix_cons.mp hfront
    rw [Text.trimChars_cons hc] at htrim
    exact (List.head_eq_of_cons_eq htrim).symm

lemma numbers_iff : Numbers tail number ↔
    number = tail.bind fun cs => Text.int32? (Text.trimChars cs) := by
  have hread : ∀ n : Int32, (∃ cs ∈ tail, ∃ numeral, Text.Trims cs numeral ∧
      Text.IsDecimal numeral n.toInt) ↔
        (tail.bind fun cs => Text.int32? (Text.trimChars cs)) = some n := by
    intro n
    simp only [Text.trims_iff, exists_eq_left', ← Text.int32?_eq_some_iff,
      Option.bind_eq_some_iff, Option.mem_def]
  simp only [Numbers, hread]
  exact Option.ext_iff.symm

lemma exists_says (line : List Char) : ∃ said, Says line said := by
  have text := Text.trims_trimChars line
  cases htext : Text.trimChars line with
  | nil => exact ⟨none, .blank (htext ▸ text)⟩
  | cons c rest =>
    rw [htext] at text
    by_cases hcomment : c = '#'
    · exact ⟨none, .comment (hcomment ▸ text)⟩
    by_cases hremoval : c = '!'
    · obtain ⟨head, tail, cuts⟩ := exists_cutsAtComma rest
      exact ⟨_, .removes (hremoval ▸ text) cuts (Text.trims_trimChars head)⟩
    · obtain ⟨head, tail, cuts⟩ := exists_cutsAtComma (c :: rest)
      exact ⟨_, .adds text hcomment hremoval cuts (Text.trims_trimChars head) (numbers_iff.mpr rfl)⟩

/-- A line says one thing. -/
lemma Says.unique (h : Says line said) (h' : Says line said') : said = said' := by
  have htexts : ∀ {x y}, Text.Trims line x → Text.Trims line y → x = y := fun hx hy =>
    hx.trimChars_eq.symm.trans hy.trimChars_eq
  cases h with
  | blank text =>
    cases h' with
    | blank => rfl
    | comment => rfl
    | removes text' | adds text' => cases htexts text text'
  | comment text =>
    cases h' with
    | blank => rfl
    | comment => rfl
    | removes text' => cases htexts text text'
    | adds text' hcomment =>
      cases htexts text text'
      exact absurd rfl hcomment
  | removes text cuts trims =>
    cases h' with
    | blank text' | comment text' => cases htexts text text'
    | removes text' cuts' trims' =>
      cases htexts text text'
      obtain ⟨rfl, -⟩ := cuts.unique cuts'
      rw [← trims.trimChars_eq, trims'.trimChars_eq]
    | adds text' _ hremoval =>
      cases htexts text text'
      exact absurd rfl hremoval
  | adds text hcomment hremoval cuts trims numbers =>
    cases h' with
    | blank text' => cases htexts text text'
    | comment text' =>
      cases htexts text text'
      exact absurd rfl hcomment
    | removes text' =>
      cases htexts text text'
      exact absurd rfl hremoval
    | adds text' _ _ cuts' trims' numbers' =>
      cases htexts text text'
      obtain ⟨rfl, rfl⟩ := cuts.unique cuts'
      rw [← trims.trimChars_eq, trims'.trimChars_eq, numbers_iff.mp numbers,
        numbers_iff.mp numbers']

lemma exists_tells (sources : List String) : ∃ history, Tells sources history := by
  unfold Tells
  generalize (sources.flatMap fun s => s.toList.splitOn '\n') = lines
  induction lines with
  | nil => exact ⟨[], .nil⟩
  | cons line lines ih =>
    obtain ⟨said, hsaid⟩ := exists_says line
    obtain ⟨history, hhistory⟩ := ih
    exact ⟨said :: history, .cons hsaid hhistory⟩

lemma Tells.unique {sources : List String} {history history' : List (Option Statement)}
    (h : Tells sources history) (h' : Tells sources history') : history = history' := by
  have hunique : Relator.RightUnique Says := fun _ _ _ => Says.unique
  exact List.right_unique_forall₂' hunique h h'

end Lines

section History
variable {history : List (Option Statement)} {said : Option Statement} {entry : Entry} {i : Nat}

lemma DeclaredAt.lt (h : DeclaredAt history entry i) : i < history.length := by
  obtain ⟨number, hget, _⟩ := h
  exact (List.getElem?_eq_some_iff.mp hget).1

/-- One line more declares an entry of its own and takes away what was said about its name. -/
lemma declaredAt_concat : DeclaredAt (history ++ [said]) entry i ↔
    (i = history.length ∧ ∃ number, said = some (.adds entry.name number) ∧
      entry.order = orderBehind history number) ∨
    (DeclaredAt history entry i ∧ ∀ s, said = some s → s.name ≠ entry.name) := by
  constructor
  · rintro ⟨number, hget, horder, hlater⟩
    obtain hlt | hle := Nat.lt_or_ge i history.length
    · rw [List.getElem?_append_left hlt] at hget
      rw [List.take_append_of_le_length (Nat.le_of_lt hlt)] at horder
      rw [List.drop_append_of_le_length hlt] at hlater
      refine .inr ⟨⟨number, hget, horder, fun s hs => hlater s (List.mem_append_left _ hs)⟩, ?_⟩
      rintro s rfl
      exact hlater s (List.mem_append_right _ List.mem_cons_self)
    · obtain ⟨hi, _⟩ := List.getElem?_eq_some_iff.mp hget
      rw [List.length_append, List.length_singleton] at hi
      obtain rfl : i = history.length := by omega
      rw [List.getElem?_concat_length] at hget
      rw [List.take_left] at horder
      exact .inl ⟨rfl, number, Option.some.inj hget, horder⟩
  · rintro (⟨rfl, number, rfl, horder⟩ | ⟨h, hsaid⟩)
    · refine ⟨number, List.getElem?_concat_length, ?_, ?_⟩
      · rw [List.take_left, horder]
      · rw [List.drop_of_length_le (by simp)]
        nofun
    · have hlt := h.lt
      obtain ⟨number, hget, horder, hlater⟩ := h
      refine ⟨number, ?_, ?_, ?_⟩
      · rw [List.getElem?_append_left hlt, hget]
      · rw [List.take_append_of_le_length (Nat.le_of_lt hlt), horder]
      · rw [List.drop_append_of_le_length hlt]
        intro s hs
        obtain hs | hs := List.mem_append.mp hs
        · exact hlater s hs
        · exact hsaid s (List.mem_singleton.mp hs).symm

lemma DeclaredAt.of_concat (h : DeclaredAt (history ++ [said]) entry i)
    (hsaid : ∀ s, said = some s → s.name ≠ entry.name) : DeclaredAt history entry i := by
  obtain ⟨_, number, hadds, _⟩ | ⟨h, _⟩ := declaredAt_concat.mp h
  · exact absurd rfl (hsaid _ hadds)
  · exact h

end History

/-! ### Reading -/

namespace Reading

/-- What a statement makes of the entries so far. -/
def follow (r : Reading) : Option Statement → Reading
  | none => r
  | some (.adds name number) => r.add name number
  | some (.removes name) => r.remove name

/-- A text that is no comment is read up to its first comma. -/
lemma line_of_trims (r : Reading) {line rest head : List Char} {tail : Option (List Char)}
    {number : Option Int32} {c : Char} (text : Text.Trims line (c :: rest)) (hcomment : c ≠ '#')
    (cuts : CutsAtComma (c :: rest) head tail) (numbers : Numbers tail number) :
    r.line line = match Text.trimChars head with
      | '!' :: name => r.remove (String.ofList (Text.trimChars name))
      | name => r.add (String.ofList name) number := by
  unfold Reading.line
  rw [text.trimChars_eq]
  split
  next hnil => cases hnil
  next hhash =>
    cases hhash
    exact absurd rfl hcomment
  next =>
    rw [cuts.parts_eq, numbers_iff.mp numbers]
    grind

lemma line_eq_follow (r : Reading) {line : List Char} {said : Option Statement}
    (h : Says line said) : r.line line = r.follow said := by
  cases h with
  | blank text =>
    rw [Reading.line, text.trimChars_eq]
    rfl
  | comment text =>
    rw [Reading.line, text.trimChars_eq]
    rfl
  | @removes rest head name tail text cuts trims =>
    have hname : Text.trimChars (head.rdropWhile Text.isBlankChar) = name := by
      rw [Text.trimChars_rdropWhile, trims.trimChars_eq]
    rw [r.line_of_trims text (by decide) (cuts.cons (by decide)) (numbers_iff.mpr rfl),
      Text.trimChars_cons (by decide)]
    exact congrArg (fun cs => r.remove (String.ofList cs)) hname
  | @adds c rest head name tail number text hcomment hremoval cuts trims numbers =>
    rw [r.line_of_trims text hcomment cuts numbers, trims.trimChars_eq]
    split
    next front =>
      -- A name with an exclamation mark before it would begin the line.
      have hc : Text.isBlankChar c = false := text.first c rfl
      exact absurd (first_eq_of_trims hc cuts.isPrefix trims).symm hremoval
    next => rfl

lemma foldl_line (r : Reading) {lines : List (List Char)} {history : List (Option Statement)}
    (h : List.Forall₂ Says lines history) :
    lines.foldl Reading.line r = history.foldl follow r := by
  induction h generalizing r with
  | nil => rfl
  | cons hsaid _ ih => rw [List.foldl_cons, List.foldl_cons, r.line_eq_follow hsaid, ih]

/-- A line break is blank, however it is written. -/
lemma line_dropReturn (r : Reading) (line : List Char) :
    r.line (Text.dropReturn line) = r.line line := by
  unfold Text.dropReturn
  split
  next front h =>
    have hline : line = [] ++ front.reverse ++ ['\r'] := by
      rw [List.reverse_eq_cons_iff.mp h, List.nil_append]
    have htrim : Text.trimChars line = Text.trimChars front.reverse := by
      rw [hline]
      exact Text.trimWhere_append (List.forall_mem_nil _) _ (List.forall_mem_singleton.mpr rfl)
    rw [Reading.line, Reading.line, htrim]
  next => rfl

/-- The lines of a text are its pieces between line feeds, except for blanks. -/
lemma foldl_lines (r : Reading) (cs : List Char) :
    (Text.lines cs).foldl Reading.line r = (cs.splitOn '\n').foldl Reading.line r := by
  obtain ⟨init, final, h⟩ :=
    (List.eq_nil_or_concat (cs.splitOn '\n')).resolve_left (List.splitOn_ne_nil _ _)
  have hinit : (init.map Text.dropReturn).foldl Reading.line r = init.foldl Reading.line r := by
    rw [List.foldl_map]
    simp only [line_dropReturn]
  unfold Text.lines
  rw [Text.splitAt_eq_splitOn, h, List.concat_eq_append]
  dsimp only
  rw [List.dropLast_concat, List.getLast?_concat, List.foldl_append, ← hinit]
  cases final with
  | nil => rfl
  | cons c rest => exact List.foldl_append

/-- The entry that a statement puts behind the others, if it adds one. -/
def added (r : Reading) : Statement → List Entry
  | .adds name number => [⟨name, number.elim r.nextOrder Int32.toInt⟩]
  | .removes _ => []

lemma entries_follow (r : Reading) (s : Statement) :
    (r.follow (some s)).entries = r.entries.filter (·.name != s.name) ++ r.added s := by
  cases s with
  | adds name number => cases number <;> rfl
  | removes name => exact (List.append_nil _).symm

lemma nextOrder_follow (r : Reading) (said : Option Statement) :
    (r.follow said).nextOrder = r.nextOrder + if Statement.isUnnumbered said then 1 else 0 := by
  obtain _ | ⟨name, _ | number⟩ | name := said <;>
    simp [follow, add, remove, Statement.isUnnumbered]

lemma mem_added_iff {r : Reading} {s : Statement} {entry : Entry} : entry ∈ r.added s ↔
    ∃ number, s = .adds entry.name number ∧
      entry.order = number.elim r.nextOrder Int32.toInt := by
  obtain ⟨name, order⟩ := entry
  cases s with
  | adds other number =>
    rw [Reading.added, List.mem_singleton, Entry.mk.injEq]
    constructor
    · rintro ⟨rfl, rfl⟩
      exact ⟨number, rfl, rfl⟩
    · rintro ⟨_, hsame, rfl⟩
      cases hsame
      exact ⟨rfl, rfl⟩
  | removes other => exact ⟨nofun, nofun⟩

/-- An entry is there if it was just added, or was there and not just named. -/
lemma mem_follow_iff {r : Reading} {said : Option Statement} {entry : Entry} :
    entry ∈ (r.follow said).entries ↔
      (∃ number, said = some (.adds entry.name number) ∧
        entry.order = number.elim r.nextOrder Int32.toInt) ∨
      (entry ∈ r.entries ∧ ∀ s, said = some s → s.name ≠ entry.name) := by
  cases said with
  | none => simp [follow]
  | some s =>
    simp only [entries_follow, List.mem_append, List.mem_filter, mem_added_iff, Option.some.injEq,
      forall_eq', bne_iff_ne, ne_comm, or_comm]

/-- What has been read is what the lines so far have declared, in the order of these lines. -/
structure Tracks (history : List (Option Statement)) (r : Reading) : Prop where
  nextOrder : r.nextOrder = orderBehind history none
  mem_iff : ∀ entry, entry ∈ r.entries ↔ ∃ i, DeclaredAt history entry i
  ascending : r.entries.Pairwise fun a b => ∀ i j, DeclaredAt history a i →
    DeclaredAt history b j → i < j

lemma tracks_start : Tracks [] start where
  nextOrder := rfl
  mem_iff _ := ⟨nofun, fun ⟨_, h⟩ => absurd h.lt (Nat.not_lt_zero _)⟩
  ascending := .nil

variable {history : List (Option Statement)} {said : Option Statement} {r : Reading}

lemma Tracks.orderBehind_eq (h : Tracks history r) (number : Option Int32) :
    orderBehind history number = number.elim r.nextOrder Int32.toInt := by
  cases number with
  | none => exact h.nextOrder.symm
  | some number => rfl

/-- The lines so far keep their places. -/
lemma Tracks.concat (h : Tracks history r) (said : Option Statement) :
    Tracks (history ++ [said]) (r.follow said) where
  nextOrder := by
    rw [nextOrder_follow, h.nextOrder, orderBehind, orderBehind, List.countP_append,
      List.countP_singleton]
    split <;> simp [Int.add_assoc]
  mem_iff entry := by
    rw [mem_follow_iff, h.mem_iff]
    constructor
    · rintro (⟨number, hsaid, horder⟩ | ⟨⟨i, hi⟩, hsaid⟩)
      · rw [← h.orderBehind_eq] at horder
        exact ⟨_, declaredAt_concat.mpr (.inl ⟨rfl, number, hsaid, horder⟩)⟩
      · exact ⟨i, declaredAt_concat.mpr (.inr ⟨hi, hsaid⟩)⟩
    · rintro ⟨i, hi⟩
      obtain ⟨_, number, hsaid, horder⟩ | ⟨hi, hsaid⟩ := declaredAt_concat.mp hi
      · rw [h.orderBehind_eq] at horder
        exact .inl ⟨number, hsaid, horder⟩
      · exact .inr ⟨⟨i, hi⟩, hsaid⟩
  ascending := by
    cases said with
    | none =>
      exact h.ascending.imp fun hab i j hi hj => hab i j (hi.of_concat nofun) (hj.of_concat nofun)
    | some s =>
      have hkept : ∀ e ∈ r.entries.filter (·.name != s.name), ∀ i,
          DeclaredAt (history ++ [some s]) e i → DeclaredAt history e i := by
        rintro e he i hi
        have hname := bne_iff_ne.mp (List.mem_filter.mp he).2
        exact hi.of_concat fun _ hs => Option.some.inj hs ▸ hname.symm
      rw [entries_follow, List.pairwise_append]
      refine ⟨?_, ?_, ?_⟩
      · exact (h.ascending.filter _).imp_of_mem fun ha hb hab i j hi hj =>
          hab i j (hkept _ ha i hi) (hkept _ hb j hj)
      · cases s <;> simp [added]
      · intro a ha b hb i j hi hj
        obtain ⟨number, rfl, _⟩ := mem_added_iff.mp hb
        obtain ⟨rfl, _⟩ | ⟨_, hnot⟩ := declaredAt_concat.mp hj
        · exact (hkept a ha i hi).lt
        · exact absurd rfl (hnot _ rfl)

/-- Line by line, what has been read is what has been declared. -/
lemma tracks_foldl (history : List (Option Statement)) :
    Tracks history (history.foldl follow start) := by
  induction history using List.reverseRecOn with
  | nil => exact tracks_start
  | append_singleton history said ih =>
    rw [List.foldl_append]
    exact ih.concat said

end Reading

lemma parse_eq (sources : List String) : parse sources =
    ((sources.flatMap fun s => s.toList.splitOn '\n').foldl Reading.line start).entries.mergeSort
      fun a b => a.order ≤ b.order := by
  simp only [parse, List.foldl_flatMap, Reading.foldl_lines]

section Parse
variable {sources : List String} {history : List (Option Statement)}

lemma parse_of_tells (h : Tells sources history) : parse sources =
    (history.foldl Reading.follow start).entries.mergeSort fun a b => a.order ≤ b.order := by
  rw [parse_eq, Reading.foldl_line start h]

lemma describes_parse (h : Tells sources history) : Describes history (parse sources) where
  mem_iff entry := by
    rw [parse_of_tells h, List.mem_mergeSort, (Reading.tracks_foldl _).mem_iff]
  nodup := nodup_names_parse sources
  ascending := by
    rw [parse_of_tells h]
    have hsorted := pairwise_mergeSort_of_pairwise (fun a b : Entry => a.order ≤ b.order)
      (by simpa using fun (a b c : Entry) => Int.le_trans)
      (by simpa using fun (a b : Entry) => Int.le_total a.order b.order)
      (Reading.tracks_foldl history).ascending
    refine hsorted.imp fun {a b} hab i j hi hj => ?_
    obtain ⟨hle, hplaces⟩ := hab
    rw [decide_eq_true_eq] at hle hplaces
    obtain hlt | heq := Int.lt_or_eq_of_le hle
    · exact .inl hlt
    · exact .inr ⟨heq, hplaces (Int.le_of_eq heq.symm) i j hi hj⟩

/-- Counting up from 100 stays within 32 bits, unless more names than that are added. -/
lemma Describes.order_bounds {entries : List Entry} (h : Describes history entries)
    (hcount : history.countP Statement.isUnnumbered ≤ 2147483547) :
    ∀ entry ∈ entries, -2147483648 ≤ entry.order ∧ entry.order ≤ 2147483647 := by
  intro entry hentry
  obtain ⟨i, number, _, horder, _⟩ := (h.mem_iff entry).mp hentry
  rw [horder]
  cases number with
  | some number => exact ⟨number.le_toInt, Int.le_of_lt_add_one number.toInt_lt⟩
  | none =>
    have htake : (history.take i).countP Statement.isUnnumbered ≤
        history.countP Statement.isUnnumbered := (List.take_sublist i history).countP_le
    rw [orderBehind]
    omega

end Parse

/-! ### Joined sources -/

/-- A line feed between two sources keeps their lines apart. -/
lemma splitOn_intercalate (sources : List String) (hne : sources ≠ []) :
    ("\n".intercalate sources).toList.splitOn '\n' =
      sources.flatMap fun s => s.toList.splitOn '\n' := by
  rw [String.toList_intercalate]
  change (['\n'].intercalate _).splitOn '\n' = _
  induction sources with
  | nil => exact absurd rfl hne
  | cons s sources ih =>
    rw [List.flatMap_cons]
    cases sources with
    | nil => simp
    | cons next sources =>
      rw [List.map_cons, List.map_cons, List.intercalate_cons_cons, List.append_assoc,
        List.singleton_append, List.splitOn_append_cons_self, ← List.map_cons,
        ih (List.cons_ne_nil _ _)]

lemma parse_intercalate (sources : List String) :
    parse ["\n".intercalate sources] = parse sources := by
  cases sources with
  | nil => rfl
  | cons s sources =>
    rw [parse_eq, parse_eq, List.flatMap_singleton,
      splitOn_intercalate _ (List.cons_ne_nil s sources)]

/-- **Entries are what the lines say in the end.**  The lines tell one history, and an entry is read
exactly if the last line about its name adds it, with the number of that line or the next free one
as its order; that has 32 bits unless more names are added than there are numbers.  The entries
ascend by order and by line, and where one source ends and the next one begins does not matter. -/
theorem parse_describes (sources : List String) :
    (∃ history, Tells sources history ∧ (∀ other, Tells sources other → other = history) ∧
      Describes history (parse sources) ∧
      (history.countP Statement.isUnnumbered ≤ 2147483547 →
        ∀ entry ∈ parse sources, -2147483648 ≤ entry.order ∧ entry.order ≤ 2147483647)) ∧
    parse ["\n".intercalate sources] = parse sources := by
  obtain ⟨history, htells⟩ := exists_tells sources
  have hdescribes := describes_parse htells
  exact ⟨⟨history, htells, fun _ hother => hother.unique htells, hdescribes,
    hdescribes.order_bounds⟩, parse_intercalate sources⟩

example : (parse ["a\nb\nc", "!b\nd , 50\ne,oops"]).map (fun e => (e.name, e.order)) =
    [("d", 50), ("a", 100), ("c", 102), ("e", 103)] := by cbv

end Descriptor
end Manifests
