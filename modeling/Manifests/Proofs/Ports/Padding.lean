import Mathlib.Data.List.Forall2
import Manifests.Proofs.Ports.Tokens

/-! Padding around the tokens of a mapping.  It makes no difference, except behind a host part that
stands alone before the port: there it belongs to what is read as a number, and to the name of the
property. -/
namespace Manifests.PortMapping

/-! ### Padding -/

/-- Nothing but spaces and tabs. -/
def IsPadding (cs : List Char) : Prop := cs ⊆ [' ', '\t']

/-- The second text is the first one between padding. -/
def Pads (x t : List Char) : Prop :=
  ∃ before after, IsPadding before ∧ IsPadding after ∧ t = before ++ x ++ after

/-- One text between paddings that may differ. -/
def Repads (t u : List Char) : Prop := ∃ x, Pads x t ∧ Pads x u

section Padding
variable {cs x t u : List Char} {protocol : Option String}

lemma IsPadding.isBlankChar (h : IsPadding cs) : ∀ c ∈ cs, Text.isBlankChar c = true := by
  have hblank : [' ', '\t'].all Text.isBlankChar = true := by decide
  exact fun c hc => List.all_eq_true.mp hblank c (h hc)

lemma isPadding_nil : IsPadding [] := List.nil_subset _

lemma IsPadding.reverse (h : IsPadding cs) : IsPadding cs.reverse := fun _ hc =>
  h (List.mem_reverse.mp hc)

lemma Pads.refl (x : List Char) : Pads x x :=
  ⟨[], [], isPadding_nil, isPadding_nil, (List.append_nil x).symm⟩

lemma Pads.trimChars_eq (h : Pads x t) : Text.trimChars t = Text.trimChars x := by
  obtain ⟨before, after, hbefore, hafter, rfl⟩ := h
  exact Text.trimWhere_append hbefore.isBlankChar x hafter.isBlankChar

lemma Pads.mem_iff (h : Pads x t) {c : Char} (hc : c ∉ [' ', '\t']) : c ∈ t ↔ c ∈ x := by
  obtain ⟨before, after, hbefore, hafter, rfl⟩ := h
  rw [List.mem_append, List.mem_append, or_iff_left (mt (hafter ·) hc),
    or_iff_right (mt (hbefore ·) hc)]

lemma Pads.reverse (h : Pads x t) : Pads x.reverse t.reverse := by
  obtain ⟨before, after, hbefore, hafter, rfl⟩ := h
  refine ⟨after.reverse, before.reverse, hafter.reverse, hbefore.reverse, ?_⟩
  rw [List.reverse_append, List.reverse_append, List.append_assoc]

/-- Without the blanks before it, only the padding behind a text is left. -/
lemma Pads.dropWhile_eq (h : Pads x t) : ∃ after, IsPadding after ∧
    t.dropWhile Text.isBlankChar = x.dropWhile Text.isBlankChar ++ after := by
  obtain ⟨before, after, hbefore, hafter, rfl⟩ := h
  rw [List.append_assoc, List.dropWhile_append_of_pos hbefore.isBlankChar, List.dropWhile_append]
  split
  next hnil =>
    rw [List.dropWhile_eq_nil_iff.mpr hafter.isBlankChar, List.isEmpty_iff.mp hnil]
    exact ⟨[], isPadding_nil, rfl⟩
  next => exact ⟨after, hafter, rfl⟩

lemma Pads.dropWhile (h : Pads x t) :
    Pads (x.dropWhile Text.isBlankChar) (t.dropWhile Text.isBlankChar) := by
  obtain ⟨after, hafter, heq⟩ := h.dropWhile_eq
  exact ⟨[], after, isPadding_nil, hafter, heq⟩

lemma Pads.rdropWhile_eq (h : Pads x t) : ∃ before, IsPadding before ∧
    t.rdropWhile Text.isBlankChar = before ++ x.rdropWhile Text.isBlankChar := by
  obtain ⟨after, hafter, heq⟩ := h.reverse.dropWhile_eq
  refine ⟨after.reverse, hafter.reverse, ?_⟩
  rw [List.rdropWhile, List.rdropWhile, heq, List.reverse_append]

/-- No padding is in a protocol, so the one that ends a text is found behind padding too. -/
lemma splitProtocol_padding_append (h : IsPadding cs) (x : List Char) :
    splitProtocol (cs ++ x) = (cs ++ (splitProtocol x).1, (splitProtocol x).2) := by
  have hforeign : [' ', '\t'].all isForeign = true := by decide
  obtain rfl | ⟨front, c, rfl⟩ := List.eq_nil_or_concat' cs
  · rfl
  · have hc := List.all_eq_true.mp hforeign c (h (by simp))
    rw [List.append_assoc, List.append_assoc, List.singleton_append, List.singleton_append,
      splitProtocol_append front x hc]

lemma Pads.finish (h : Pads x t) (hprotocol : ∀ p ∈ protocol, IsProtocol p) :
    Pads (finish (x ++ ending protocol)).1 (finish (t ++ ending protocol)).1 ∧
      (finish (t ++ ending protocol)).2 = (finish (x ++ ending protocol)).2 := by
  cases protocol with
  | none =>
    obtain ⟨before, hbefore, heq⟩ := h.rdropWhile_eq
    rw [ending, Option.elim_none, List.append_nil, List.append_nil, PortMapping.finish,
      PortMapping.finish, heq, splitProtocol_padding_append hbefore]
    exact ⟨⟨before, [], hbefore, isPadding_nil, (List.append_nil _).symm⟩, rfl⟩
  | some p =>
    rw [finish_protocol (hprotocol p rfl), finish_protocol (hprotocol p rfl)]
    exact ⟨h, rfl⟩

lemma Repads.trimChars_eq (h : Repads t u) : Text.trimChars t = Text.trimChars u := by
  obtain ⟨x, ht, hu⟩ := h
  rw [ht.trimChars_eq, hu.trimChars_eq]

lemma Repads.mem_iff (h : Repads t u) {c : Char} (hc : c ∉ [' ', '\t']) : c ∈ t ↔ c ∈ u := by
  obtain ⟨x, ht, hu⟩ := h
  rw [ht.mem_iff hc, hu.mem_iff hc]

lemma Repads.dropWhile (h : Repads t u) :
    Repads (t.dropWhile Text.isBlankChar) (u.dropWhile Text.isBlankChar) := by
  obtain ⟨x, ht, hu⟩ := h
  exact ⟨_, ht.dropWhile, hu.dropWhile⟩

lemma Repads.finish (h : Repads t u) (hprotocol : ∀ p ∈ protocol, IsProtocol p) :
    Repads (finish (t ++ ending protocol)).1 (finish (u ++ ending protocol)).1 ∧
      (finish (t ++ ending protocol)).2 = (finish (u ++ ending protocol)).2 := by
  obtain ⟨x, ht, hu⟩ := h
  obtain ⟨hpadst, heqt⟩ := ht.finish hprotocol
  obtain ⟨hpadsu, hequ⟩ := hu.finish hprotocol
  exact ⟨⟨_, hpadst, hpadsu⟩, heqt.trans hequ.symm⟩

end Padding

/-! ### Padded tokens -/

section Tokens
variable {ts us : List String} {as bs : List (List Char)} {protocol : Option String}

lemma exists_of_forall₂_concat {α β : Type} {R : α → β → Prop} {front : List α} {last : α}
    {l : List β} (h : List.Forall₂ R (front ++ [last]) l) :
    ∃ front' last', l = front' ++ [last'] ∧ List.Forall₂ R front front' ∧ R last last' := by
  induction front generalizing l with
  | nil =>
    obtain ⟨b, rest, hb, hrest, rfl⟩ := List.forall₂_cons_left_iff.mp h
    obtain rfl := List.forall₂_nil_left_iff.mp hrest
    exact ⟨[], b, rfl, .nil, hb⟩
  | cons a front ih =>
    obtain ⟨b, rest, hb, hrest, rfl⟩ := List.forall₂_cons_left_iff.mp h
    obtain ⟨front', last', rfl, hfront, hlast⟩ := ih hrest
    exact ⟨b :: front', last', rfl, .cons hb hfront, hlast⟩

lemma started_repads (h : List.Forall₂ (fun t u => Repads t.toList u.toList) ts us) :
    List.Forall₂ Repads (started ts) (started us) := by
  cases h with
  | nil => exact .nil
  | cons ht hrest =>
    refine .cons ht.dropWhile ?_
    rwa [List.forall₂_map_left_iff, List.forall₂_map_right_iff]

lemma not_mem_of_repads (h : List.Forall₂ (fun t u => Repads t.toList u.toList) ts us)
    (hcolon : ∀ t ∈ ts, ':' ∉ t.toList) : ∀ u ∈ us, ':' ∉ u.toList := by
  induction h with
  | nil => simp
  | cons ht _ ih =>
    obtain ⟨hhead, hrest⟩ := List.forall_mem_cons.mp hcolon
    exact List.forall_mem_cons.mpr ⟨mt (ht.mem_iff (by decide)).mpr hhead, ih hrest⟩

/-- Padded tokens stay what they are but for their padding, and so does the protocol. -/
lemma tokens_repads (h : List.Forall₂ (fun t u => Repads t.toList u.toList) ts us)
    (hcolon : ∀ t ∈ ts, ':' ∉ t.toList) (hne : ts ≠ [])
    (hprotocol : ∀ p ∈ protocol, IsProtocol p) :
    List.Forall₂ Repads (tokens (written ts protocol)) (tokens (written us protocol)) ∧
      protocolOf (written ts protocol) = protocolOf (written us protocol) := by
  have hstarted := started_repads h
  have hne' : started ts ≠ [] := by
    obtain ⟨t, rest, rfl⟩ := List.exists_cons_of_ne_nil hne
    simp [started]
  obtain ⟨front, last, hts⟩ := (List.eq_nil_or_concat' _).resolve_left hne'
  rw [hts] at hstarted
  obtain ⟨front', last', hus, hfront, hlast⟩ := exists_of_forall₂_concat hstarted
  obtain ⟨hfinish, hsame⟩ := hlast.finish hprotocol
  have hcolon' := not_mem_of_repads h hcolon
  rw [tokens_written hts hcolon hprotocol, tokens_written hus hcolon' hprotocol,
    protocolOf_written hts, protocolOf_written hus]
  exact ⟨List.rel_append hfront (.cons hfinish .nil), hsame⟩

lemma tokens_pair {host port : String} (hcolon : ∀ t ∈ [host, port], ':' ∉ t.toList)
    (hprotocol : ∀ p ∈ protocol, IsProtocol p) : tokens (written [host, port] protocol) =
      [host.toList.dropWhile Text.isBlankChar, (finish (port.toList ++ ending protocol)).1] := by
  have hstarted : started [host, port] =
      [host.toList.dropWhile Text.isBlankChar] ++ [port.toList] := rfl
  rw [tokens_written hstarted hcolon hprotocol]
  rfl

lemma exists_mem_iff_of_repads (h : List.Forall₂ Repads as bs) :
    (∃ a ∈ as, '\n' ∈ a) ↔ ∃ b ∈ bs, '\n' ∈ b := by
  induction h with
  | nil => rfl
  | cons ha _ ih =>
    rw [List.exists_mem_cons_iff, List.exists_mem_cons_iff, ih, ha.mem_iff (by decide)]

end Tokens

/-! ### Host parts -/

section Hosts
variable {properties : SortedMap String} {t u host host' : List Char}

/-- The port that a host part binds when it is no address: its own number, or else the one that the
property of this name holds. -/
def hostPort? (properties : SortedMap String) (host : List Char) : Option Int32 :=
  Text.int32? host <|> (property? properties host).bind Text.int32?

/-- Two host parts bind the same, given that they are the same but for blanks around them. -/
def BindsAlike (properties : SortedMap String) (host host' : List Char) : Prop :=
  match address? properties host with
  | some _ => Text.int32? host = Text.int32? host'
  | none => hostPort? properties host = hostPort? properties host'

lemma Repads.number?_eq (h : Repads t u) : number? t = number? u := by
  rw [number?, h.trimChars_eq, number?]

lemma Repads.address?_eq (properties : SortedMap String) (h : Repads t u) :
    address? properties t = address? properties u := by
  rw [address?, h.trimChars_eq, address?]

lemma bindHost_of_address? {a : String} (h : address? properties host = some a) (c : Int32)
    (protocol : String) : bindHost properties host ⟨none, none, c, protocol⟩ =
      (Text.int32? host).elim ⟨some a, none, c, protocol⟩ fun n => ⟨none, some n, c, protocol⟩ := by
  unfold bindHost
  rw [h]
  cases Text.int32? host <;> rfl

lemma bindHost_of_address?_eq_none (h : address? properties host = none) (c : Int32)
    (protocol : String) : bindHost properties host ⟨none, none, c, protocol⟩ =
      ⟨none, hostPort? properties host, c, protocol⟩ := by
  unfold bindHost hostPort?
  rw [h]
  cases Text.int32? host <;> rfl

lemma bindHost_eq_iff (properties : SortedMap String) (h : Repads host host') (c : Int32)
    (protocol : String) :
    bindHost properties host ⟨none, none, c, protocol⟩ =
      bindHost properties host' ⟨none, none, c, protocol⟩ ↔ BindsAlike properties host host' := by
  have haddress := h.address?_eq properties
  unfold BindsAlike
  cases hhost : address? properties host with
  | none =>
    rw [bindHost_of_address?_eq_none hhost, bindHost_of_address?_eq_none (haddress ▸ hhost)]
    simp
  | some a =>
    rw [bindHost_of_address? hhost, bindHost_of_address? (haddress ▸ hhost)]
    cases Text.int32? host <;> cases Text.int32? host' <;> simp

end Hosts

/-! ### Padded mappings -/

section Mappings
variable {as bs : List (List Char)} {ts us : List String} {host port host' port' : String}
  {protocol : Option String}

/-- Every token is trimmed, except a host part that stands alone before the port. -/
lemma read?_repads (properties : SortedMap String) (protocol : String)
    (h : List.Forall₂ Repads as bs) (hlength : as.length ≠ 2) :
    read? properties protocol as = read? properties protocol bs := by
  obtain _ | ⟨ha, _ | ⟨hb, _ | ⟨hc, _ | ⟨hd, hrest⟩⟩⟩⟩ := h
  · rfl
  · rw [read?, ha.number?_eq, read?]
  · exact absurd rfl hlength
  · rw [read?, hc.number?_eq, hb.number?_eq, ha.address?_eq, read?]
  · rfl

lemma toOption_parse_repads (properties : SortedMap String)
    (h : List.Forall₂ (fun t u => Repads t.toList u.toList) ts us)
    (hcolon : ∀ t ∈ ts, ':' ∉ t.toList) (hprotocol : ∀ p ∈ protocol, IsProtocol p)
    (hlength : ts.length ≠ 2) :
    (parse properties (written ts protocol)).toOption =
      (parse properties (written us protocol)).toOption := by
  obtain rfl | hne := eq_or_ne ts []
  · rw [List.forall₂_nil_left_iff.mp h]
  · obtain ⟨htokens, hsame⟩ := tokens_repads h hcolon hne hprotocol
    have hread := read?_repads properties (protocolOf (written ts protocol)) htokens
      (by rwa [length_tokens_written hne hcolon hprotocol])
    simp only [toOption_parse, exists_mem_iff_of_repads htokens]
    rw [hread, hsame]

/-- With two tokens it depends on the host part, as far as there is a number behind it. -/
lemma toOption_parse_pair_iff (properties : SortedMap String)
    (hhost : Repads host.toList host'.toList) (hport : Repads port.toList port'.toList)
    (hcolon : ∀ t ∈ [host, port], ':' ∉ t.toList) (hprotocol : ∀ p ∈ protocol, IsProtocol p) :
    (parse properties (written [host, port] protocol)).toOption =
        (parse properties (written [host', port'] protocol)).toOption ↔
      ∀ m, parse properties (written [host, port] protocol) = .ok m →
        BindsAlike properties (host.toList.dropWhile Text.isBlankChar)
          (host'.toList.dropWhile Text.isBlankChar) := by
  have hpair : List.Forall₂ (fun t u => Repads t.toList u.toList) [host, port] [host', port'] :=
    .cons hhost (.cons hport .nil)
  obtain ⟨htokens, hsame⟩ := tokens_repads hpair hcolon (by simp) hprotocol
  have hbreak := exists_mem_iff_of_repads htokens
  have hbind := bindHost_eq_iff properties hhost.dropWhile
  have hnumber := (hport.finish hprotocol).1.number?_eq
  have hcut := tokens_pair hcolon hprotocol
  have hcut' := tokens_pair (not_mem_of_repads hpair hcolon) hprotocol
  simp only [← Except.toOption_eq_some_iff, toOption_parse, hbreak, ← hsame]
  split
  next => simp
  next =>
    rw [hcut, hcut', read?, read?, ← hnumber]
    cases number? (finish (port.toList ++ ending protocol)).1 with
    | none => simp
    | some c => simpa using hbind c _

/-- **When padding makes no difference.**  Other spaces and tabs around the tokens give the same
mapping or failure, unless there are two tokens: then the blanks behind the host part count, where
it is read as a number and where it is the name of a property. -/
theorem parse_repadded_iff (properties : SortedMap String)
    (h : List.Forall₂ (fun t u => Repads t.toList u.toList) ts us)
    (hcolon : ∀ t ∈ ts, ':' ∉ t.toList) (hprotocol : ∀ p ∈ protocol, IsProtocol p) :
    (parse properties (written ts protocol)).toOption =
        (parse properties (written us protocol)).toOption ↔
      ∀ host port host' port' m, ts = [host, port] → us = [host', port'] →
        parse properties (written ts protocol) = .ok m →
        BindsAlike properties (host.toList.dropWhile Text.isBlankChar)
          (host'.toList.dropWhile Text.isBlankChar) := by
  -- Only the host part before a single colon is read with its padding.
  by_cases hlength : ts.length = 2
  · obtain ⟨host, port, rfl⟩ := List.length_eq_two.mp hlength
    obtain ⟨host', _, hhost, hrest, rfl⟩ := List.forall₂_cons_left_iff.mp h
    obtain ⟨port', _, hport, hnil, rfl⟩ := List.forall₂_cons_left_iff.mp hrest
    obtain rfl := List.forall₂_nil_left_iff.mp hnil
    rw [toOption_parse_pair_iff properties hhost hport hcolon hprotocol]
    constructor
    · rintro hm _ _ _ _ m ⟨⟩ ⟨⟩ hok
      exact hm m hok
    · intro hall m hok
      exact hall host port host' port' m rfl rfl hok
  · refine iff_of_true (toOption_parse_repads properties h hcolon hprotocol hlength) ?_
    rintro host port host' port' m rfl
    exact absurd rfl hlength

/-- A blank behind the port of the host loses it. -/
theorem parse_ninety_repadded :
    (parse ∅ (written ["90", "8080"] none)).toOption ≠
      (parse ∅ (written ["90 ", "8080"] none)).toOption := by
  have hhost : Repads "90".toList "90 ".toList :=
    ⟨"90".toList, .refl _, [], [' '], isPadding_nil, by simp [IsPadding], rfl⟩
  have hport : Repads "8080".toList "8080".toList := ⟨_, .refl _, .refl _⟩
  have hiff := @parse_repadded_iff ["90", "8080"] ["90 ", "8080"] none ∅
    (.cons hhost (.cons hport .nil)) (by decide) (by simp)
  intro heq
  have halike := hiff.mp heq "90" "8080" "90 " "8080" ⟨none, some 90, 8080, "tcp"⟩ rfl rfl
    (by decide +kernel)
  have haddress : address? ∅ ("90".toList.dropWhile Text.isBlankChar) = none := by decide +kernel
  rw [BindsAlike, haddress] at halike
  exact absurd halike (by decide +kernel)

end Mappings
end Manifests.PortMapping
