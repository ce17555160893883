import Mathlib.Data.List.TakeDrop
import TunnelConfig.Net.Endpoint
import TunnelConfig.Net.Network
import TunnelConfig.Proofs.Addresses

/-!
# Endpoints and networks written and read

**Theorems (`Endpoint.ofText?_text`, `Network.ofText_text`).** The text of an endpoint reads as the
endpoint without its flow information, which the text does not show. The text of a network reads as
the network.

An address in front of something else is read up to where the address ends, since brackets, percent
signs, colons after an IPv4 address and slashes cannot go on with it.
-/

namespace TunnelConfig

open Text

/-! ## Endpoints -/

namespace Endpoint

/-- The endpoint as its text shows it. -/
def withoutFlow : Endpoint → Endpoint
  | v4 ip port => v4 ip port
  | v6 ip port _ scope => v6 ip port 0 scope

theorem text_withoutFlow (e : Endpoint) : e.withoutFlow.text = e.text := by
  cases e <;> rfl

theorem readDecimal_decimal {greatest n : Nat} (hle : n ≤ greatest) {cs : List Char}
    (hcs : NoDigit 10 cs) : readDecimal greatest (decimal n ++ cs) = some (n, cs) := by
  have hpos := length_decimal_pos n
  rw [readDecimal, takeDigits_decimal n hcs]
  dsimp only
  rw [digitsValue_decimal, if_neg (by omega)]

theorem readPort_decimal (port : UInt16) :
    readPort (':' :: decimal port.toNat) = some (port, []) := by
  have hlt : port.toNat < 65536 := port.toNat_lt
  have hread := readDecimal_decimal (Nat.le_of_lt_succ hlt) (noDigit_nil 10)
  rw [List.append_nil] at hread
  rw [readPort, hread, Option.map_some]
  dsimp only
  rw [UInt16.ofNat_toNat]

/-- The scope and the bracket after it. -/
theorem readScope_zone (scope : UInt32) (cs : List Char) :
    readScope ((if scope = 0 then [] else '%' :: decimal scope.toNat) ++ ']' :: cs) =
      (scope, ']' :: cs) := by
  by_cases hscope : scope = 0
  · rw [if_pos hscope, hscope]
    rfl
  · have hlt : scope.toNat < 4294967296 := scope.toNat_lt
    have hbracket : NoDigit 10 (']' :: cs) := noDigit_cons.mpr (by decide)
    rw [if_neg hscope, List.cons_append, readScope,
      readDecimal_decimal (Nat.le_of_lt_succ hlt) hbracket]
    dsimp only
    rw [UInt32.ofNat_toNat]

theorem readV4_chars (ip : IPv4) (port : UInt16) :
    readV4 (v4 ip port).chars = some (v4 ip port, []) := by
  have hcolon : NoDigit 10 (':' :: decimal port.toNat) := noDigit_cons.mpr (by decide)
  rw [readV4, chars, IPv4.read_chars ip hcolon]
  simp [readPort_decimal]

theorem ends_zone (scope : UInt32) (cs : List Char) :
    IPv6.Ends ((if scope = 0 then [] else '%' :: decimal scope.toNat) ++ ']' :: cs) := by
  split
  · exact ⟨noDigit_cons.mpr (by decide), by simp, by simp⟩
  · exact ⟨noDigit_cons.mpr (by decide), by simp, by simp⟩

theorem readV6_chars (ip : IPv6) (port : UInt16) (flow scope : UInt32) :
    readV6 (v6 ip port flow scope).chars = some (v6 ip port 0 scope, []) := by
  rw [chars, List.append_assoc, readV6, IPv6.read_chars ip (ends_zone scope _)]
  simp only [Option.bind_eq_bind, Option.bind_some, readScope_zone, readPort_decimal]
  rfl

theorem ofText?_text (e : Endpoint) : ofText? e.text = some e.withoutFlow := by
  rw [ofText?, text, String.toList_ofList]
  cases e with
  | v4 ip port =>
    rw [readV4_chars]
    rfl
  | v6 ip port flow scope =>
    have hbracket : readV4 (v6 ip port flow scope).chars = none := by
      rw [chars, readV4, IPv4.read_eq_none (noDigit_cons.mpr (by decide))]
      rfl
    rw [hbracket, readV6_chars]
    rfl

end Endpoint

/-! ## Networks -/

namespace Network

/-- The characters of an address are neither blank nor slashes. -/
theorem isSymbol_bounds {c : Char} (h : Address.IsSymbol c) :
    isBlank c = false ∧ c ≠ '/' := by
  rcases h with h | rfl | rfl
  · have hbounds := toNat_of_isDigit h
    refine ⟨isBlank_eq_false (by omega) (by omega), ?_⟩
    rintro rfl
    exact absurd h (by decide)
  · exact ⟨by decide, by decide⟩
  · exact ⟨by decide, by decide⟩

theorem isBlank_of_mem_chars {n : Network} {c : Char} (h : c ∈ n.chars) : isBlank c = false := by
  rw [chars] at h
  rcases List.mem_append.mp h with h | h
  · exact (isSymbol_bounds (Address.isSymbol_of_mem h)).1
  · rcases List.mem_cons.mp h with rfl | h
    · decide
    · have hbounds := toNat_of_isDigit (isDigit_of_mem_decimal h)
      exact isBlank_eq_false (by omega) (by omega)

theorem span_chars (n : Network) :
    n.chars.span (· != '/') = (n.address.chars, '/' :: decimal n.length.toNat) := by
  have haddress : ∀ c ∈ n.address.chars, (c != '/') = true := fun c hc => by
    simpa using (isSymbol_bounds (Address.isSymbol_of_mem hc)).2
  rw [List.span_eq_takeWhile_dropWhile, chars, List.takeWhile_append_of_pos haddress,
    List.dropWhile_append_of_pos haddress]
  simp

theorem make_eq (n : Network) : make n.address n.length = .ok n := dif_pos n.length_le

theorem ofText_text (n : Network) : ofText n.text = .ok n := by
  have hlength : n.length.toNat < 256 := n.length.toNat_lt
  rw [ofText, text, String.toList_ofList, trim_eq_self fun _ => isBlank_of_mem_chars, span_chars]
  dsimp only
  rw [Address.ofChars?_chars]
  dsimp only
  rw [readUnsigned_decimal (Nat.le_of_lt_succ hlength)]
  dsimp only
  rw [UInt8.ofNat_toNat, make_eq]
  rfl

end Network

end TunnelConfig
