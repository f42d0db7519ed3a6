import Mathlib.Tactic.Lemma
import Manifests.Probes

/-! Quoted words and the words that a command line is split into.  A line of quoted words is split
into their texts, and only a line that ends behind an open quote can not be split. -/
namespace Manifests.Text.CommandWords

/-- A text in quotes of either kind, which does not have this quote in it. -/
structure Quotation where
  quote : Char
  text : List Char
  isQuote_quote : isQuote quote = true
  quote_not_mem : quote ∉ text

def Quotation.written (p : Quotation) : List Char := p.quote :: (p.text ++ [p.quote])

/-- A word of adjacent quotations, with the white space in front of it. -/
structure QuotedWord where
  gap : List Char
  pieces : List Quotation
  isBlank_gap : ∀ c ∈ gap, isBlankChar c = true
  pieces_ne_nil : pieces ≠ []

namespace QuotedWord

def text (w : QuotedWord) : List Char := w.pieces.flatMap Quotation.text

def written (w : QuotedWord) : List Char := w.gap ++ w.pieces.flatMap Quotation.written

end QuotedWord

/-- Every quote that is opened is closed. -/
inductive Closed : List Char → Prop
  | nil : Closed []
  | plain {c : Char} {rest : List Char} (hc : isQuote c = false) (h : Closed rest) :
    Closed (c :: rest)
  | quoted (p : Quotation) {rest : List Char} (h : Closed rest) : Closed (p.written ++ rest)

/-- A quote is opened, behind others that are closed, and not closed again. -/
def EndsInside (cs : List Char) : Prop :=
  ∃ front q rest, cs = front ++ q :: rest ∧ Closed front ∧ isQuote q = true ∧ q ∉ rest

namespace State

variable {s : State}

@[simp] lemma flush_flush (s : State) : s.flush.flush = s.flush := by
  cases h : s.word <;> simp [flush, h]

@[simp] lemma quote_flush (s : State) : s.flush.quote = s.quote := by
  cases h : s.word <;> simp [flush, h]

@[simp] lemma word_flush (s : State) : s.flush.word = none := by
  cases h : s.word <;> simp [flush, h]

/-! ### Steps inside and outside of quotes -/

lemma step_open {q : Char} (h : s.quote = none) (hq : isQuote q = true) :
    s.step q = ⟨s.finished, some (s.word.getD []), some q⟩ := by
  simp [step, h, hq]

lemma step_close {q : Char} (h : s.quote = some q) : s.step q = ⟨s.finished, s.word, none⟩ := by
  simp [step, h]

lemma step_inside {q c : Char} (h : s.quote = some q) (hc : c ≠ q) : s.step c = s.push c := by
  simp [step, h, hc]

lemma step_blank {c : Char} (h : s.quote = none) (hc : isBlankChar c = true) :
    s.step c = s.flush := by
  have hquote : isQuote c = false := by
    rw [Bool.eq_false_iff]
    intro hquote
    obtain rfl | rfl : c = '"' ∨ c = '\'' := by simpa [isQuote] using hquote
    all_goals exact absurd hc (by decide)
  simp [step, h, hquote, hc]

lemma quote_step_plain {c : Char} (h : s.quote = none) (hc : isQuote c = false) :
    (s.step c).quote = none := by
  rw [step, h]
  dsimp only
  rw [hc]
  split
  next hfalse => cases hfalse
  next =>
    split
    · rw [quote_flush, h]
    · exact h

/-- Inside of quotes everything else belongs to the word. -/
lemma foldl_inside {q : Char} {cs word : List Char} (hq : q ∉ cs)
    (finished : List (List Char)) :
    cs.foldl step ⟨finished, some word, some q⟩ = ⟨finished, some (word ++ cs), some q⟩ := by
  induction cs generalizing word with
  | nil => simp
  | cons c cs ih =>
    obtain ⟨hc, hcs⟩ := List.ne_and_not_mem_of_not_mem_cons hq
    rw [List.foldl_cons, step_inside rfl (Ne.symm hc), push, Option.getD_some, ih hcs,
      List.append_assoc, List.singleton_append]

lemma foldl_open {q : Char} {cs : List Char} (h : s.quote = none) (hquote : isQuote q = true)
    (hq : q ∉ cs) :
    (q :: cs).foldl step s = ⟨s.finished, some (s.word.getD [] ++ cs), some q⟩ := by
  rw [List.foldl_cons, step_open h hquote, foldl_inside hq]

/-- A quotation adds its text to the word, which begins if need be. -/
lemma foldl_quotation (h : s.quote = none) (p : Quotation) :
    p.written.foldl step s = ⟨s.finished, some (s.word.getD [] ++ p.text), none⟩ := by
  rw [Quotation.written, ← List.cons_append, List.foldl_append,
    foldl_open h p.isQuote_quote p.quote_not_mem]
  exact step_close (s := ⟨s.finished, _, some p.quote⟩) rfl

lemma foldl_quotations {pieces : List Quotation} (hne : pieces ≠ []) (h : s.quote = none) :
    (pieces.flatMap Quotation.written).foldl step s =
      ⟨s.finished, some (s.word.getD [] ++ pieces.flatMap Quotation.text), none⟩ := by
  induction pieces generalizing s with
  | nil => exact absurd rfl hne
  | cons p pieces ih =>
    rw [List.flatMap_cons, List.foldl_append, foldl_quotation h, List.flatMap_cons]
    by_cases hrest : pieces = []
    · simp [hrest]
    · rw [ih hrest rfl, Option.getD_some, List.append_assoc]

/-- White space ends the word, if there is any. -/
lemma foldl_gap {gap : List Char} (hgap : ∀ c ∈ gap, isBlankChar c = true) (h : s.quote = none) :
    gap.foldl step s = if gap = [] then s else s.flush := by
  induction gap generalizing s with
  | nil => rfl
  | cons c gap ih =>
    obtain ⟨hc, hgap⟩ := List.forall_mem_cons.mp hgap
    rw [List.foldl_cons, step_blank h hc, ih hgap (by rw [quote_flush, h])]
    simp

/-! ### Lines of quoted words -/

/-- A word that is set apart from the one before it follows the finished ones. -/
lemma foldl_quotedWord (h : s.quote = none) (w : QuotedWord)
    (hapart : s.word = none ∨ w.gap ≠ []) :
    w.written.foldl step s = ⟨s.flush.finished, some w.text, none⟩ := by
  have hgap : w.gap.foldl step s = s.flush := by
    rw [foldl_gap w.isBlank_gap h]
    obtain hword | hne := hapart
    · simp [flush, hword]
    · rw [if_neg hne]
  rw [QuotedWord.written, List.foldl_append, hgap,
    foldl_quotations w.pieces_ne_nil (by rw [quote_flush, h]), word_flush]
  rfl

/-- The invariant over the words: outside of quotes, with the last word still open. -/
lemma foldl_quotedWords {words : List QuotedWord} (h : s.quote = none)
    (hfirst : s.word = none ∨ ∀ w ∈ words.head?, w.gap ≠ [])
    (hgaps : ∀ w ∈ words.tail, w.gap ≠ []) :
    ((words.flatMap QuotedWord.written).foldl step s).quote = none ∧
      ((words.flatMap QuotedWord.written).foldl step s).flush.finished =
        s.flush.finished ++ words.map QuotedWord.text := by
  induction words generalizing s with
  | nil => simp [h]
  | cons w words ih =>
    have hapart : s.word = none ∨ w.gap ≠ [] := hfirst.imp_right fun hw => hw w rfl
    rw [List.flatMap_cons, List.foldl_append, foldl_quotedWord h w hapart]
    have hnext := @ih ⟨s.flush.finished, some w.text, none⟩ rfl
      (.inr fun v hv => hgaps v (List.mem_of_mem_head? hv))
      fun v hv => hgaps v (List.mem_of_mem_tail hv)
    refine ⟨hnext.1, hnext.2.trans ?_⟩
    rw [List.map_cons, List.append_cons]
    rfl

lemma quote_foldl_closed {cs : List Char} (hcs : Closed cs) (h : s.quote = none) :
    (cs.foldl step s).quote = none := by
  induction hcs generalizing s with
  | nil => exact h
  | plain hc _ ih => exact ih (quote_step_plain h hc)
  | quoted p _ ih =>
    rw [List.foldl_append, foldl_quotation h]
    exact ih rfl

lemma quote_foldl_endsInside {cs : List Char} (hcs : EndsInside cs) (h : s.quote = none) :
    (cs.foldl step s).quote.isSome = true := by
  obtain ⟨front, q, rest, rfl, hfront, hquote, hrest⟩ := hcs
  rw [List.foldl_append, foldl_open (quote_foldl_closed hfront h) hquote hrest]
  rfl

end State

/-- The words of a line of quoted words that white space keeps apart. -/
lemma scan_written {words : List QuotedWord} {back : List Char}
    (hgaps : ∀ w ∈ words.tail, w.gap ≠ []) (hback : ∀ c ∈ back, isBlankChar c = true) :
    (scan (words.flatMap QuotedWord.written ++ back)).quote = none ∧
      (scan (words.flatMap QuotedWord.written ++ back)).flush.finished =
        words.map QuotedWord.text := by
  obtain ⟨hquote, hfinished⟩ := State.foldl_quotedWords (s := .start) rfl (.inl rfl) hgaps
  rw [scan, List.foldl_append, State.foldl_gap hback hquote]
  split
  · exact ⟨hquote, hfinished⟩
  · rw [State.quote_flush, State.flush_flush]
    exact ⟨hquote, hfinished⟩

/-! ### Quotes that stay open -/

lemma EndsInside.append {cs : List Char} (h : EndsInside cs) {front : List Char}
    (hfront : ∀ {rest}, Closed rest → Closed (front ++ rest)) : EndsInside (front ++ cs) := by
  obtain ⟨before, q, rest, rfl, hbefore, hquote, hrest⟩ := h
  exact ⟨front ++ before, q, rest, by rw [List.append_assoc], hfront hbefore, hquote, hrest⟩

/-- The first quote is closed by the next one of its kind, or never. -/
lemma closed_or_endsInside (cs : List Char) : Closed cs ∨ EndsInside cs := by
  induction hlength : cs.length using Nat.strongRecOn generalizing cs with
  | ind n ih =>
    subst hlength
    cases cs with
    | nil => exact .inl .nil
    | cons c cs =>
      cases hquote : isQuote c with
      | false =>
        obtain h | h := ih cs.length (by simp) cs rfl
        · exact .inl (.plain hquote h)
        · have hinside : EndsInside ([c] ++ cs) := h.append (.plain hquote)
          exact .inr hinside
      | true =>
        by_cases hmem : c ∈ cs
        · obtain ⟨text, rest, rfl, htext⟩ := List.eq_append_cons_of_mem hmem
          have hwritten : c :: (text ++ c :: rest) =
              (Quotation.mk c text hquote htext).written ++ rest := by
            simp [Quotation.written]
          rw [hwritten]
          obtain h | h := ih rest.length (by simp; omega) rest rfl
          · exact .inl (.quoted _ h)
          · exact .inr (h.append (.quoted _))
        · exact .inr ⟨[], c, cs, rfl, .nil, hquote, hmem⟩

lemma isSome_quote_scan_iff {cs : List Char} :
    (scan cs).quote.isSome = true ↔ EndsInside cs := by
  constructor
  · intro h
    refine (closed_or_endsInside cs).resolve_left fun hclosed => ?_
    rw [scan, State.quote_foldl_closed hclosed rfl] at h
    cases h
  · exact fun h => State.quote_foldl_endsInside h rfl

lemma split?_eq_none_iff {line : String} : split? line = none ↔ EndsInside line.toList := by
  rw [← isSome_quote_scan_iff, split?]
  split <;> simp [*]

/-! ### Words that are quoted -/

/-- The quotation of a character, in the quotes that it is not. -/
def Quotation.ofChar (c : Char) : Quotation :=
  if h : c = '"' then ⟨'\'', [c], rfl, by simp [h]⟩
  else ⟨'"', [c], rfl, by simpa using Ne.symm h⟩

lemma Quotation.text_ofChar (c : Char) : (ofChar c).text = [c] := by
  unfold ofChar
  split <;> rfl

/-- Every word can be quoted, behind a space. -/
def QuotedWord.ofList (cs : List Char) : QuotedWord where
  gap := [' ']
  pieces := ⟨'"', [], rfl, List.not_mem_nil⟩ :: cs.map Quotation.ofChar
  isBlank_gap := List.forall_mem_singleton.mpr rfl
  pieces_ne_nil := List.cons_ne_nil _ _

lemma QuotedWord.text_ofList (cs : List Char) : (ofList cs).text = cs := by
  simp [ofList, text, List.flatMap_map, Quotation.text_ofChar]

/-- **Splitting undoes quoting.**  A line of quoted words that white space keeps apart is split into
their texts, which may be any texts; and what can not be split ends behind an open quote. -/
theorem split?_quoted :
    (∀ (words : List QuotedWord) (back : List Char), (∀ w ∈ words.tail, w.gap ≠ []) →
      (∀ c ∈ back, isBlankChar c = true) →
      split? (String.ofList (words.flatMap QuotedWord.written ++ back)) =
        some (words.map fun w => String.ofList w.text)) ∧
    (∀ args : List String, ∃ words : List QuotedWord,
      (∀ w ∈ words.tail, w.gap ≠ []) ∧ (words.map fun w => String.ofList w.text) = args) ∧
    ∀ line error, Config.ProbeDeclaration.execAction line = .error error ↔
      error = .unbalancedQuotes line ∧ EndsInside line.toList := by
  refine ⟨?_, ?_, ?_⟩
  · intro words back hgaps hback
    obtain ⟨hquote, hfinished⟩ := scan_written hgaps hback
    rw [split?, String.toList_ofList, hquote, hfinished, List.map_map]
    rfl
  · intro args
    refine ⟨args.map fun arg => QuotedWord.ofList arg.toList, ?_, ?_⟩
    · intro w hw
      obtain ⟨_, _, rfl⟩ := List.mem_map.mp (List.mem_of_mem_tail hw)
      exact List.cons_ne_nil _ _
    · rw [List.map_map, List.map_id'' fun arg => ?_]
      rw [Function.comp_apply, QuotedWord.text_ofList, String.ofList_toList]
  · intro line error
    rw [← split?_eq_none_iff, Config.ProbeDeclaration.execAction]
    cases split? line <;> simp [eq_comm]

/-- A word in quotes of both kinds, and an empty one. -/
def quotedApostrophe : List QuotedWord :=
  [⟨[], [⟨'\'', "it".toList, rfl, by decide⟩, ⟨'"', "'s mine".toList, rfl, by decide⟩], by simp,
      List.cons_ne_nil _ _⟩,
    ⟨['\t'], [⟨'"', [], rfl, List.not_mem_nil⟩], List.forall_mem_singleton.mpr rfl,
      List.cons_ne_nil _ _⟩]

theorem split?_apostrophe :
    (∀ w ∈ quotedApostrophe.tail, w.gap ≠ []) ∧ (∀ c ∈ [' '], isBlankChar c = true) ∧
      split? (String.ofList (quotedApostrophe.flatMap QuotedWord.written ++ [' '])) =
        some ["it's mine", ""] := by
  have hgaps : ∀ w ∈ quotedApostrophe.tail, w.gap ≠ [] := by simp [quotedApostrophe]
  have hback : ∀ c ∈ [' '], isBlankChar c = true := List.forall_mem_singleton.mpr rfl
  exact ⟨hgaps, hback, split?_quoted.1 quotedApostrophe [' '] hgaps hback⟩

end Manifests.Text.CommandWords
