import Manifests.Port
import Manifests.Proofs.Text

/-! The tokens of a port mapping.  Its text is cut at the colons in front of an optional protocol,
and blanks around the whole text belong to no token. -/
namespace Manifests

lemma Except.toOption_bind {α β ε : Type} (x : Except ε α) (f : α → Except ε β) :
    (x >>= f).toOption = x.toOption.bind fun a => (f a).toOption := by
  cases x <;> rfl

lemma Except.toOption_eq_some_iff {α ε : Type} {x : Except ε α} {a : α} :
    x.toOption = some a ↔ x = .ok a := by
  cases x <;> simp [Except.toOption]

namespace PortMapping

variable {cs : List Char} {c : Char}

/-! ### Protocols -/

/-- The name of a protocol, in any letter case. -/
def IsProtocol (p : String) : Prop := p.toLower = "tcp" ∨ p.toLower = "udp"

def protocolChars : List Char := "/tcpud".toList

/-- Neither in a protocol nor right before it. -/
def isForeign (c : Char) : Bool := !protocolChars.contains c.toLower

lemma splitProtocol_of_isForeign (hmem : c ∈ cs.drop (cs.length - 4)) (hc : isForeign c = true) :
    splitProtocol cs = (cs, "tcp") := by
  have hletters : ∀ tail ∈ ["/tcp".toList, "/udp".toList],
      tail.all protocolChars.contains = true := by decide
  have hne : ∀ tail ∈ ["/tcp".toList, "/udp".toList],
      (cs.drop (cs.length - 4)).map Char.toLower ≠ tail := by
    rintro tail htail rfl
    have hmem := List.all_eq_true.mp (hletters _ htail) _ (List.mem_map_of_mem hmem)
    rw [isForeign, hmem] at hc
    exact absurd hc (by decide)
  unfold splitProtocol
  dsimp only
  rw [if_neg (hne _ (by simp)), if_neg (hne _ (by simp))]

lemma splitProtocol_of_length_lt (h : cs.length < 4) : splitProtocol cs = (cs, "tcp") := by
  have htail : ∀ protocol : List Char, protocol.length = 4 →
      (cs.drop (cs.length - 4)).map Char.toLower ≠ protocol := by
    rintro protocol hlength rfl
    rw [List.length_map, List.length_drop] at hlength
    omega
  unfold splitProtocol
  dsimp only
  rw [if_neg (htail _ rfl), if_neg (htail _ rfl)]

/-- A protocol stands at the end, so what stands before a character that it can not have is not
looked at. -/
lemma splitProtocol_append (front back : List Char) (hc : isForeign c = true) :
    splitProtocol (front ++ c :: back) =
      (front ++ c :: (splitProtocol back).1, (splitProtocol back).2) := by
  obtain hlt | hle := Nat.lt_or_ge back.length 4
  · have hmem : c ∈ (front ++ c :: back).drop ((front ++ c :: back).length - 4) := by
      have hfront : (front ++ c :: back).length - 4 ≤ front.length := by
        rw [List.length_append, List.length_cons]
        omega
      rw [List.drop_append_of_le_length hfront]
      exact List.mem_append_right _ List.mem_cons_self
    rw [splitProtocol_of_isForeign hmem hc, splitProtocol_of_length_lt hlt]
  · have hcs : front ++ c :: back = (front ++ [c]) ++ back := by simp
    have hlength : (front ++ c :: back).length - 4 = (front ++ [c]).length + (back.length - 4) := by
      rw [hcs, List.length_append]
      omega
    unfold splitProtocol
    dsimp only
    rw [hlength, hcs, List.drop_length_add_append, List.take_length_add_append]
    split
    · simp
    · split <;> simp

/-- A protocol that is written is found. -/
lemma splitProtocol_protocol {p : String} (h : IsProtocol p) (front : List Char) :
    splitProtocol (front ++ '/' :: p.toList) = (front, p.toLower) := by
  have hthree : p.toList.length = 3 := by
    rw [← List.length_map (f := Char.toLower), ← Text.toList_toLower]
    obtain h | h := h <;> rw [h] <;> rfl
  have hlength : (front ++ '/' :: p.toList).length - 4 = front.length := by
    rw [List.length_append, List.length_cons, hthree]
    omega
  have htail : (('/' :: p.toList).map Char.toLower) = '/' :: p.toLower.toList := by
    rw [Text.toList_toLower]
    rfl
  unfold splitProtocol
  dsimp only
  rw [hlength, List.drop_left, List.take_left, htail]
  obtain h | h := h
  · rw [h]
    rfl
  · rw [h]
    rfl

lemma fst_splitProtocol_subset (cs : List Char) : (splitProtocol cs).1 ⊆ cs := by
  unfold splitProtocol
  dsimp only
  split
  · exact List.take_subset _ cs
  · split
    · exact List.take_subset _ cs
    · exact List.Subset.refl cs

/-- No protocol has a blank in it. -/
lemma not_isBlankChar_of_mem {p : String} (h : IsProtocol p) (hc : c ∈ p.toList) :
    ¬ Text.isBlankChar c = true := by
  intro hblank
  have hsame : c.toLower = c := by
    unfold Char.toLower
    split
    next hupper =>
      have hlow : 65 ≤ c.toNat := UInt32.le_iff_toNat_le.mp hupper.1
      have hhigh : c.toNat ≤ 90 := UInt32.le_iff_toNat_le.mp hupper.2
      simp only [Text.isBlankChar, Bool.or_eq_true, Bool.and_eq_true, beq_iff_eq,
        decide_eq_true_eq] at hblank
      omega
    next => rfl
  have hlower : c ∈ p.toLower.toList := by
    rw [Text.toList_toLower]
    exact hsame ▸ List.mem_map_of_mem hc
  have hnone : ∀ protocol ∈ ["tcp", "udp"], protocol.toList.any Text.isBlankChar = false := by
    decide
  have hmem : p.toLower ∈ ["tcp", "udp"] := List.mem_pair.mpr h
  exact List.any_eq_false.mp (hnone _ hmem) c hlower hblank

/-! ### Tokens -/

/-- What stands before the protocol. -/
def body (spec : String) : List Char := (splitProtocol (Text.trimChars spec.toList)).1

/-- The protocol that is written or meant, in lower case. -/
def protocolOf (spec : String) : String := (splitProtocol (Text.trimChars spec.toList)).2

def tokens (spec : String) : List (List Char) := Text.splitAt ':' (body spec)

def number? (token : List Char) : Option Int32 := Text.int32? (Text.trimChars token)

/-- What one to three tokens say. -/
def read? (properties : SortedMap String) (protocol : String) :
    List (List Char) → Option PortMapping
  | [port] => (number? port).map fun port => ⟨none, none, port, protocol⟩
  | [host, port] =>
    (number? port).map fun port => bindHost properties host ⟨none, none, port, protocol⟩
  | [hostIP, hostPort, port] =>
    (number? port).bind fun port =>
      (number? hostPort).map fun hostPort =>
        ⟨address? properties hostIP, some hostPort, port, protocol⟩
  | _ => none

lemma toOption_number (spec : String) (token : List Char) :
    (number spec token).toOption = number? token := by
  unfold number number?
  cases Text.int32? (Text.trimChars token) <;> rfl

/-- A mapping is read from its tokens and its protocol alone.  No line breaks inside of it. -/
lemma toOption_parse (properties : SortedMap String) (spec : String) :
    (parse properties spec).toOption =
      if ∃ token ∈ tokens spec, '\n' ∈ token then none
      else read? properties (protocolOf spec) (tokens spec) := by
  have hbreak : (body spec).contains '\n' = true ↔ ∃ token ∈ tokens spec, '\n' ∈ token :=
    List.contains_iff_mem.trans (Text.exists_mem_splitAt_iff (by decide)).symm
  unfold parse protocolOf
  unfold tokens body at hbreak ⊢
  dsimp only
  generalize splitProtocol (Text.trimChars spec.toList) = parts at hbreak ⊢
  by_cases hbody : parts.1.contains '\n' = true
  · rw [if_pos hbody, if_pos (hbreak.mp hbody)]
    rfl
  · rw [if_neg hbody, if_neg (mt hbreak.mpr hbody)]
    have hnumber := toOption_number (String.ofList (Text.trimChars spec.toList))
    obtain _ | ⟨a, _ | ⟨b, _ | ⟨c, _ | ⟨d, rest⟩⟩⟩⟩ := Text.splitAt ':' parts.1
    · rfl
    · change Except.toOption (number _ a >>= _) = (number? a).map _
      rw [Except.toOption_bind, hnumber]
      cases number? a <;> rfl
    · change Except.toOption (number _ b >>= _) = (number? b).map _
      rw [Except.toOption_bind, hnumber]
      cases number? b <;> rfl
    · change Except.toOption (number _ c >>= fun _ => number _ b >>= _) =
        (number? c).bind fun _ => (number? b).map _
      simp only [Except.toOption_bind, hnumber]
      cases number? c <;> cases number? b <;> rfl
    · have hlength : (a :: b :: c :: d :: rest).reverse.length = rest.length + 4 := by simp
      generalize (a :: b :: c :: d :: rest).reverse = reversed at hlength
      -- None of the shapes that are read has four parts.
      obtain _ | ⟨_, _ | ⟨_, _ | ⟨_, _ | ⟨_, _⟩⟩⟩⟩ := reversed
      · simp at hlength
      · simp at hlength
      · simp at hlength
      · simp at hlength
      · rfl

/-! ### Written mappings -/

/-- The protocol as it stands behind the tokens. -/
def ending (protocol : Option String) : List Char := protocol.elim [] fun p => '/' :: p.toList

/-- The text with these tokens and this protocol. -/
def written (tokens : List String) (protocol : Option String) : String :=
  ":".intercalate tokens ++ String.ofList (ending protocol)

/-- What is left of the last token, and the protocol, once the blanks behind them are gone. -/
def finish (token : List Char) : List Char × String :=
  splitProtocol (token.rdropWhile Text.isBlankChar)

lemma toList_written (ts : List String) (protocol : Option String) :
    (written ts protocol).toList = [':'].intercalate (ts.map String.toList) ++ ending protocol := by
  have hcolon : ":".toList = [':'] := rfl
  rw [written, String.toList_append, String.toList_intercalate, hcolon, String.toList_ofList]

/-- The tokens without the blanks before the first one. -/
def started (ts : List String) : List (List Char) :=
  (ts.map String.toList).modifyHead (List.dropWhile Text.isBlankChar)

variable {ts : List String} {front : List (List Char)} {last : List Char}
  {protocol : Option String}

lemma dropWhile_append_ending (cs : List Char) (protocol : Option String) :
    (cs ++ ending protocol).dropWhile Text.isBlankChar =
      cs.dropWhile Text.isBlankChar ++ ending protocol := by
  cases protocol with
  | none => simp [ending]
  | some p => exact Text.dropWhile_append_cons (by decide) cs p.toList

lemma trimChars_written (hne : ts ≠ []) (protocol : Option String) :
    Text.trimChars (written ts protocol).toList =
      ([':'].intercalate (started ts) ++ ending protocol).rdropWhile Text.isBlankChar := by
  obtain ⟨t, rest, rfl⟩ := List.exists_cons_of_ne_nil hne
  have htrim : Text.trimChars (written (t :: rest) protocol).toList =
      ((written (t :: rest) protocol).toList.dropWhile Text.isBlankChar).rdropWhile
        Text.isBlankChar := rfl
  rw [htrim, toList_written, dropWhile_append_ending, List.map_cons,
    Text.dropWhile_intercalate (by decide)]
  rfl

/-- The last token ends where the protocol starts, and the others stand as they are. -/
lemma splitProtocol_written (h : started ts = front ++ [last]) (protocol : Option String) :
    splitProtocol (Text.trimChars (written ts protocol).toList) =
      ([':'].intercalate (front ++ [(finish (last ++ ending protocol)).1]),
        (finish (last ++ ending protocol)).2) := by
  have hne : ts ≠ [] := by
    rintro rfl
    simp [started] at h
  rw [trimChars_written hne, h]
  by_cases hfront : front = []
  · rw [hfront, List.nil_append, List.nil_append, List.intercalate_singleton,
      List.intercalate_singleton]
    rfl
  · rw [Text.intercalate_concat hfront, List.append_assoc, List.cons_append,
      Text.rdropWhile_append_cons (by decide), splitProtocol_append _ _ (by decide),
      Text.intercalate_concat hfront]
    rfl

lemma protocolOf_written (h : started ts = front ++ [last]) (protocol : Option String) :
    protocolOf (written ts protocol) = (finish (last ++ ending protocol)).2 := by
  rw [protocolOf, splitProtocol_written h]

lemma finish_protocol {p : String} (h : IsProtocol p) (token : List Char) :
    finish (token ++ ending (some p)) = (token, p.toLower) := by
  have hkept : p.toList.rdropWhile Text.isBlankChar = p.toList := by
    rw [List.rdropWhile_eq_self_iff]
    intro hne hblank
    exact not_isBlankChar_of_mem h (List.getLast_mem hne) hblank
  change splitProtocol ((token ++ '/' :: p.toList).rdropWhile _) = _
  rw [Text.rdropWhile_append_cons (by decide), hkept, splitProtocol_protocol h]

lemma not_mem_finish {token : List Char} (h : ':' ∉ token) : ':' ∉ (finish token).1 := fun hmem =>
  h ((List.rdropWhile_prefix _ _).subset (fst_splitProtocol_subset _ hmem))

lemma not_mem_of_mem_started (hcolon : ∀ t ∈ ts, ':' ∉ t.toList) :
    ∀ token ∈ started ts, ':' ∉ token := by
  cases ts with
  | nil => simp [started]
  | cons t rest =>
    obtain ⟨ht, hrest⟩ := List.forall_mem_cons.mp hcolon
    refine List.forall_mem_cons.mpr ⟨mt ((List.dropWhile_sublist _).mem ·) ht, ?_⟩
    exact List.forall_mem_map.mpr hrest

/-- What is written is cut into its tokens again. -/
lemma tokens_written (h : started ts = front ++ [last]) (hcolon : ∀ t ∈ ts, ':' ∉ t.toList)
    (hprotocol : ∀ p ∈ protocol, IsProtocol p) :
    tokens (written ts protocol) = front ++ [(finish (last ++ ending protocol)).1] := by
  have hstarted := not_mem_of_mem_started hcolon
  rw [h, List.forall_mem_append, List.forall_mem_singleton] at hstarted
  obtain ⟨hfront, hlast⟩ := hstarted
  have hfinish : ':' ∉ (finish (last ++ ending protocol)).1 := by
    cases protocol with
    | none =>
      refine not_mem_finish ?_
      rwa [ending, Option.elim_none, List.append_nil]
    | some p => rwa [finish_protocol (hprotocol p rfl)]
  rw [tokens, body, splitProtocol_written h]
  refine Text.splitAt_intercalate (by simp) ?_
  exact List.forall_mem_append.mpr ⟨hfront, List.forall_mem_singleton.mpr hfinish⟩

lemma length_tokens_written (hne : ts ≠ []) (hcolon : ∀ t ∈ ts, ':' ∉ t.toList)
    (hprotocol : ∀ p ∈ protocol, IsProtocol p) :
    (tokens (written ts protocol)).length = ts.length := by
  have hlength : (started ts).length = ts.length := by simp [started]
  have hne' : started ts ≠ [] := List.ne_nil_of_length_pos (hlength ▸ List.length_pos_of_ne_nil hne)
  obtain ⟨front, last, hts⟩ := (List.eq_nil_or_concat' _).resolve_left hne'
  rw [tokens_written hts hcolon hprotocol, ← hlength, hts, List.length_append, List.length_append]
  rfl

end PortMapping
end Manifests
