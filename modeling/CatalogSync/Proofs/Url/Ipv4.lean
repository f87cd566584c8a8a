import CatalogSync.Url.Ipv4
import CatalogSync.Proofs.Url.Numeral

/-!
# Addresses of version 4

An address that is read fits in 32 bits, and the text of an address is read back as that address.
-/

namespace CatalogSync.Url

/-- The four bytes of an address. -/
def ipv4Bytes (address : Nat) : List Nat := [16777216, 65536, 256, 1].map fun unit => address / unit % 256

/-- The parts of an address are bytes. -/
theorem ipv4Bytes_lt {address b : Nat} (h : b ∈ ipv4Bytes address) : b < 256 := by
  obtain ⟨unit, -, rfl⟩ := List.mem_map.1 h
  exact Nat.mod_lt _ (by decide)

/-- An address is written in decimal with dots between its bytes. -/
theorem toList_renderIpv4 (address : Nat) :
    (renderIpv4 address).toList = ['.'].intercalate ((ipv4Bytes address).map (Nat.toDigits 10)) := by
  simp [renderIpv4, ipv4Bytes]

/-- The text of an address has only digits and dots. -/
theorem mem_renderIpv4 {address : Nat} {c : Char} (h : c ∈ (renderIpv4 address).toList) :
    (∃ d < 10, c = Nat.digitChar d) ∨ c = '.' := by
  have digits : ∀ n, c ∈ Nat.toDigits 10 n → ∃ d < 10, c = Nat.digitChar d := fun n hc =>
    Text.exists_digit_of_mem_toDigits (by decide) hc
  simp only [toList_renderIpv4, ipv4Bytes, List.map_cons, List.map_nil, List.intercalate_cons_cons, List.intercalate_singleton,
    List.mem_append, List.mem_singleton] at h
  grind

/-- What is between the dots are the bytes. -/
theorem labels_renderIpv4 (address : Nat) :
    labels (renderIpv4 address).toList = (ipv4Bytes address).map (Nat.toDigits 10) := by
  rw [labels, toList_renderIpv4]
  refine List.splitOn_intercalate '.' ?_ (by simp [ipv4Bytes])
  intro l hl hdot
  obtain ⟨b, -, rfl⟩ := List.mem_map.1 hl
  simpa using Nat.isDigit_of_mem_toDigits (by decide) (by decide) hdot

/-- The text of an address is one that has to be an address. -/
theorem endsInNumber_renderIpv4 (address : Nat) : endsInNumber (renderIpv4 address).toList = true := by
  have hlast : lastLabel (labels (renderIpv4 address).toList) = Nat.toDigits 10 (address % 256) := by
    rw [labels_renderIpv4]
    cases hd : Nat.toDigits 10 (address % 256) with
    | nil => exact absurd hd Nat.toDigits_ne_nil
    | cons c cs => simp [ipv4Bytes, lastLabel, hd]
  have hdigits : (Nat.toDigits 10 (address % 256)).all Char.isDigit = true :=
    List.all_eq_true.2 fun c hc => Nat.isDigit_of_mem_toDigits (by decide) (by decide) hc
  simp [endsInNumber, hlast, hdigits]

/-- A byte in decimal is read back. -/
theorem ipv4Number?_toDigits {b : Nat} (h : b < 256) : ipv4Number? (Nat.toDigits 10 b) = some b := by
  have : ∀ b < 256, ipv4Number? (Nat.toDigits 10 b) = some b := by decide +kernel
  exact this b h

/-- The four bytes of an address join to it. -/
theorem joinIpv4_ipv4Bytes {address : Nat} (h : address < 2 ^ 32) : joinIpv4 (ipv4Bytes address) = some address := by
  have hlast : address % 256 < 256 := Nat.mod_lt _ (by decide)
  have hsum : 256 * (256 * (256 * (address / 16777216 % 256) + address / 65536 % 256) + address / 256 % 256) + address % 256
      = address := by omega
  simp [joinIpv4, ipv4Bytes]
  omega

/-- An address is read back from what is written. -/
theorem parseIpv4?_renderIpv4 {address : Nat} (h : address < 2 ^ 32) :
    parseIpv4? (renderIpv4 address).toList = some address := by
  have hread : ((ipv4Bytes address).map (Nat.toDigits 10)).mapM ipv4Number? = some (ipv4Bytes address) := by
    simp [ipv4Bytes, ipv4Number?_toDigits, Nat.mod_lt]
  have hlen : (ipv4Bytes address).length = 4 := rfl
  simp [parseIpv4?, labels_renderIpv4, hread, hlen, joinIpv4_ipv4Bytes h]

/-- Numbers join to an address that fits in 32 bits: all but the last are bytes, and the last is below what they leave. -/
theorem joinIpv4_lt {numbers : List Nat} {address : Nat} (h : joinIpv4 numbers = some address) : address < 2 ^ 32 := by
  match numbers, h with
  | [], h => simp [joinIpv4] at h
  | [a], h | [a, b], h | [a, b, c], h | [a, b, c, d], h =>
    simp [joinIpv4] at h
    omega
  | _ :: _ :: _ :: _ :: _ :: _, h => simp [joinIpv4] at h; grind

/-- What is read has 32 bits. -/
theorem parseIpv4?_lt {cs : List Char} {address : Nat} (h : parseIpv4? cs = some address) : address < 2 ^ 32 := by
  simp only [parseIpv4?, Option.ite_none_left_eq_some] at h
  obtain ⟨numbers, -, hj⟩ := Option.bind_eq_some_iff.1 h.2
  exact joinIpv4_lt hj

end CatalogSync.Url
