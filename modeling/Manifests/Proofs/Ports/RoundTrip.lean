import Manifests.Proofs.Numerals
import Manifests.Proofs.Ports.Tokens

/-! Mappings that are written with numbers and literal addresses are read back as they are, whatever
properties the project has. -/
namespace Manifests
open Text.IpAddress (IsFourBytes)
open Text (IsDecimal IsDigits)

namespace PortMapping

/-! ### Plain tokens -/

/-- The characters of numbers and of literal addresses of four bytes. -/
def plainChars : List Char := "0123456789+-.".toList

/-- Some plain characters: such a token has no blank and no separator, and no protocol ends it. -/
structure IsPlain (token : List Char) : Prop where
  ne_nil : token ≠ []
  subset : token ⊆ plainChars

section Plain
variable {token : List Char}

lemma mem_plainChars_of_isDigit {c : Char} (h : c.isDigit = true) : c ∈ plainChars := by
  have hdigits : ∀ n < 58, 48 ≤ n → Char.ofNat n ∈ plainChars := by decide
  rw [Char.isDigit, Bool.and_eq_true, decide_eq_true_eq, decide_eq_true_eq] at h
  have hlow : 48 ≤ c.toNat := UInt32.le_iff_toNat_le.mp h.1
  have hhigh : c.toNat ≤ 57 := UInt32.le_iff_toNat_le.mp h.2
  rw [← Char.ofNat_toNat c]
  exact hdigits c.toNat (by omega) hlow

lemma subset_plainChars_of_isDigits (h : IsDigits token) : token ⊆ plainChars := fun c hc =>
  mem_plainChars_of_isDigit (h.isDigit c hc)

lemma isPlain_of_isDecimal {n : Int} (h : IsDecimal token n) : IsPlain token where
  ne_nil := h.ne_nil
  subset := by
    cases h with
    | unsigned h => exact subset_plainChars_of_isDigits h
    | plus h => exact List.cons_subset.mpr ⟨by decide, subset_plainChars_of_isDigits h⟩
    | minus h => exact List.cons_subset.mpr ⟨by decide, subset_plainChars_of_isDigits h⟩

lemma isPlain_of_isFourBytes {s : String} (h : IsFourBytes s) : IsPlain s.toList where
  ne_nil hnil := by
    have haddress := h.isAddress
    rw [hnil] at haddress
    exact absurd haddress (by decide)
  subset c hc := by
    obtain hdigit | rfl := h.isDigit_or_dot c hc
    · exact mem_plainChars_of_isDigit hdigit
    · decide

variable (h : IsPlain token)
include h

lemma IsPlain.not_mem {c : Char} (hc : c ∉ plainChars) : c ∉ token := fun hmem => hc (h.subset hmem)

lemma IsPlain.not_isBlankChar {c : Char} (hc : c ∈ token) : ¬ Text.isBlankChar c = true := by
  have hnone : plainChars.any Text.isBlankChar = false := by decide
  exact List.any_eq_false.mp hnone c (h.subset hc)

lemma IsPlain.dropWhile_eq : token.dropWhile Text.isBlankChar = token :=
  List.dropWhile_eq_self_iff.mpr fun hlength => h.not_isBlankChar (List.getElem_mem hlength)

lemma IsPlain.rdropWhile_eq : token.rdropWhile Text.isBlankChar = token :=
  List.rdropWhile_eq_self_iff.mpr fun hne => h.not_isBlankChar (List.getLast_mem hne)

lemma IsPlain.trimChars_eq : Text.trimChars token = token := by
  change (token.dropWhile _).rdropWhile _ = token
  rw [h.dropWhile_eq, h.rdropWhile_eq]

lemma IsPlain.finish_eq {protocol : Option String} (hprotocol : ∀ p ∈ protocol, IsProtocol p) :
    finish (token ++ ending protocol) = (token, (protocol.map String.toLower).getD "tcp") := by
  cases protocol with
  | none =>
    -- The last character belongs to no protocol, so nothing is cut off.
    have hforeign : plainChars.all isForeign = true := by decide
    obtain ⟨front, final, rfl⟩ := (List.eq_nil_or_concat' token).resolve_left h.ne_nil
    have hfinal := List.all_eq_true.mp hforeign final (h.subset (by simp))
    rw [ending, Option.elim_none, List.append_nil, finish, h.rdropWhile_eq,
      splitProtocol_append front [] hfinal]
    rfl
  | some p => exact finish_protocol (hprotocol p rfl) token

end Plain

lemma address?_of_isFourBytes (properties : SortedMap String) {s : String} (h : IsFourBytes s) :
    address? properties s.toList = some s := by
  unfold address?
  dsimp only
  rw [(isPlain_of_isFourBytes h).trimChars_eq, if_pos h.isAddress, String.ofList_toList]

lemma number?_of_isDecimal {token : List Char} {n : Int32} (h : IsDecimal token n.toInt) :
    number? token = some n := by
  rw [number?, (isPlain_of_isDecimal h).trimChars_eq, h.int32?_eq]

/-! ### Written mappings -/

variable {ts : List String} {ip hostPort protocol : Option String} {port : String}
  {h : Option Int32} {c : Int32}

/-- Plain tokens are read as they are written, and the protocol in lower case. -/
lemma read_written (hplain : ∀ t ∈ ts, IsPlain t.toList) (hne : ts ≠ [])
    (hprotocol : ∀ p ∈ protocol, IsProtocol p) :
    tokens (written ts protocol) = ts.map String.toList ∧
      protocolOf (written ts protocol) = (protocol.map String.toLower).getD "tcp" := by
  have hstarted : started ts = ts.map String.toList := by
    obtain ⟨t, rest, rfl⟩ := List.exists_cons_of_ne_nil hne
    exact congrArg (· :: _) (hplain t List.mem_cons_self).dropWhile_eq
  have hcolon : ∀ t ∈ ts, ':' ∉ t.toList := fun t ht => (hplain t ht).not_mem (by decide)
  obtain ⟨front, last, rfl⟩ := (List.eq_nil_or_concat' ts).resolve_left hne
  have hlast := (hplain last (by simp)).finish_eq hprotocol
  rw [List.map_append, List.map_singleton] at hstarted ⊢
  rw [tokens_written hstarted hcolon hprotocol, protocolOf_written hstarted, hlast]
  exact ⟨rfl, rfl⟩

/-- Such a mapping is read from the tokens that were written. -/
lemma toOption_parse_written (properties : SortedMap String) (hplain : ∀ t ∈ ts, IsPlain t.toList)
    (hne : ts ≠ []) (hprotocol : ∀ p ∈ protocol, IsProtocol p) :
    (parse properties (written ts protocol)).toOption =
      read? properties ((protocol.map String.toLower).getD "tcp") (ts.map String.toList) := by
  obtain ⟨htokens, hlower⟩ := read_written hplain hne hprotocol
  have hline : ¬ ∃ token ∈ tokens (written ts protocol), '\n' ∈ token := by
    rw [htokens]
    rintro ⟨token, htoken, hmem⟩
    obtain ⟨t, ht, rfl⟩ := List.mem_map.mp htoken
    exact (hplain t ht).not_mem (by decide) hmem
  rw [toOption_parse, if_neg hline, hlower, htokens]

/-- A host part that is a number is a port, and one that is an address is no number. -/
lemma read?_tokens (properties : SortedMap String) (protocol : String)
    (hip : ∀ a ∈ ip, IsFourBytes a)
    (hhost : Option.Rel (fun text n => IsDecimal text.toList n.toInt) hostPort h)
    (hport : IsDecimal port.toList c.toInt) :
    read? properties protocol ((ip.toList ++ hostPort.toList ++ [port]).map String.toList) =
      some ⟨ip, h, c, protocol⟩ := by
  have hport := number?_of_isDecimal hport
  -- Which host parts there are decides whether the middle one is read strictly.
  cases ip with
  | none =>
    cases hhost with
    | none => simp [read?, hport]
    | some hhost => simp [read?, hport, bindHost, hhost.int32?_eq]
  | some a =>
    have haddress := address?_of_isFourBytes properties (hip a rfl)
    cases hhost with
    | none => simp [read?, hport, bindHost, (hip a rfl).int32?_eq_none, haddress]
    | some hhost => simp [read?, hport, number?_of_isDecimal hhost, haddress]

lemma isPlain_parts (hip : ∀ a ∈ ip, IsFourBytes a)
    (hhost : Option.Rel (fun text n => IsDecimal text.toList n.toInt) hostPort h)
    (hport : IsDecimal port.toList c.toInt) :
    ∀ t ∈ ip.toList ++ hostPort.toList ++ [port], IsPlain t.toList := by
  intro t ht
  simp only [List.mem_append, Option.mem_toList, List.mem_singleton] at ht
  obtain (ht | ht) | rfl := ht
  · exact isPlain_of_isFourBytes (hip t ht)
  · cases hhost with
    | none => exact absurd ht (by simp)
    | some hhost =>
      cases ht
      exact isPlain_of_isDecimal hhost
  · exact isPlain_of_isDecimal hport

lemma upper_protocol (h : ∀ p ∈ protocol, IsProtocol p) :
    Text.upper ((protocol.map String.toLower).getD "tcp") =
      ((protocol.map String.toLower).getD "tcp").toUpper := by
  have hchars : ∀ q ∈ ["tcp", "udp"], (Text.upper q).toList = q.toList.map Char.toUpper := by
    decide +kernel
  have hmem : (protocol.map String.toLower).getD "tcp" ∈ ["tcp", "udp"] := by
    rw [List.mem_pair]
    cases protocol with
    | none => exact .inl rfl
    | some p => exact h p rfl
  rw [← String.toList_inj, Text.toList_toUpper]
  exact hchars _ hmem

/-- **Mappings are read back.**  Whatever the properties are, an address, numbers and a protocol are
what was written, and so they are in the port of the container. -/
theorem parse_written (properties : SortedMap String) (hip : ∀ a ∈ ip, IsFourBytes a)
    (hhost : Option.Rel (fun text n => IsDecimal text.toList n.toInt) hostPort h)
    (hport : IsDecimal port.toList c.toInt) (hprotocol : ∀ p ∈ protocol, IsProtocol p) :
    parse properties (written (ip.toList ++ hostPort.toList ++ [port]) protocol) =
        .ok ⟨ip, h, c, (protocol.map String.toLower).getD "tcp"⟩ ∧
      (parse properties (written (ip.toList ++ hostPort.toList ++ [port]) protocol)).map
          toContainerPort =
        .ok { (default : ContainerPort) with
          containerPort := c
          hostIP := ip
          hostPort := h
          protocol := some ((protocol.map String.toLower).getD "tcp").toUpper } := by
  have hparse := toOption_parse_written properties (isPlain_parts hip hhost hport) (by simp)
    hprotocol
  rw [read?_tokens properties _ hip hhost hport] at hparse
  have hok := Except.toOption_eq_some_iff.mp hparse
  refine ⟨hok, ?_⟩
  rw [hok, Except.map, toContainerPort, upper_protocol hprotocol]

/-- Properties with the names of the parts change nothing. -/
theorem parse_written_shadowed :
    parse (.ofList [("172.22.27.82", "10.0.0.7"), ("82", "9000")]) "172.22.27.82:82:8082/UdP" =
        .ok ⟨some "172.22.27.82", some 82, 8082, "udp"⟩ ∧
      (parse (.ofList [("172.22.27.82", "10.0.0.7"), ("82", "9000")])
          "172.22.27.82:82:8082/UdP").map toContainerPort =
        .ok { (default : ContainerPort) with
          containerPort := 8082
          hostIP := some "172.22.27.82"
          hostPort := some 82
          protocol := some "UDP" } := by
  have hip : IsFourBytes "172.22.27.82" := ⟨172, 22, 27, 82, by decide +kernel⟩
  have hhost : IsDecimal "82".toList (82 : Int32).toInt := Text.isDecimal_int32Text 82
  have hport : IsDecimal "8082".toList (8082 : Int32).toInt := Text.isDecimal_int32Text 8082
  have hlower : "UdP".toLower = "udp" := by
    rw [← String.toList_inj, Text.toList_toLower]
    decide
  have hupper : "udp".toUpper = "UDP" := by
    rw [← String.toList_inj, Text.toList_toUpper]
    decide
  have h := @parse_written (some "172.22.27.82") (some "82") (some "UdP") "8082" (some 82) 8082
    (.ofList [("172.22.27.82", "10.0.0.7"), ("82", "9000")]) (by rintro a ⟨⟩; exact hip)
    (.some hhost) hport (by rintro p ⟨⟩; exact .inr hlower)
  have htext : written ((some "172.22.27.82").toList ++ (some "82").toList ++ ["8082"])
      (some "UdP") = "172.22.27.82:82:8082/UdP" := by decide +kernel
  rwa [htext, Option.map_some, Option.getD_some, hlower, hupper] at h

end PortMapping
end Manifests
