import CatalogSync.Text.CharTable
import Mathlib.Algebra.Group.Nat.Defs
import Mathlib.Data.List.Basic

/-!
# Numerals in addresses

A number written in a base up to sixteen is read back digit by digit, whatever cap a reader puts on the value while it is below
that cap.
-/

namespace CatalogSync.Text

/-- A hexadecimal digit is read back. -/
theorem hexDigit?_digitChar {d : Nat} (h : d < 16) : hexDigit? (Nat.digitChar d) = some d := by
  have : ∀ d < 16, hexDigit? (Nat.digitChar d) = some d := by decide
  exact this d h

/-- Every character of a numeral is a digit of its base. -/
theorem exists_digit_of_mem_toDigits {base n : Nat} {c : Char} (hbase : 1 < base) (h : c ∈ Nat.toDigits base n) :
    ∃ d < base, c = Nat.digitChar d := by
  induction n using Nat.strongRecOn with
  | ind n ih =>
    rw [Nat.toDigits_eq_if hbase] at h
    split at h
    · next hn => exact ⟨n, hn, List.mem_singleton.1 h⟩
    · next hn =>
      rcases List.mem_append.1 h with h | h
      · exact ih _ (Nat.div_lt_self (by omega) hbase) h
      · exact ⟨n % base, Nat.mod_lt _ (by omega), List.mem_singleton.1 h⟩

/-- A reader that goes from `m` to `base * m + d` at the digit `d`, as long as that stays below `bound`, reads a numeral below
`bound` as its number. -/
theorem foldl_toDigits {base bound n : Nat} {step : Nat → Char → Nat} (hbase : 1 < base)
    (hstep : ∀ m d, d < base → base * m + d < bound → step m (Nat.digitChar d) = base * m + d) (hn : n < bound) :
    (Nat.toDigits base n).foldl step 0 = n := by
  induction n using Nat.strongRecOn with
  | ind n ih =>
    rw [Nat.toDigits_eq_if hbase]
    split
    · next hlt => simpa using hstep 0 n hlt (by simpa using hn)
    · next hge =>
      have hdiv : n / base < n := Nat.div_lt_self (by omega) hbase
      have hsum : base * (n / base) + n % base = n := Nat.div_add_mod n base
      rw [List.foldl_append, ih _ hdiv (by omega), List.foldl_cons, List.foldl_nil,
        hstep _ _ (Nat.mod_lt _ (by omega)) (by omega), hsum]

/-- A number in hexadecimal is read back. -/
theorem hexValue_toDigits (n : Nat) : hexValue (Nat.toDigits 16 n) = n := by
  unfold hexValue
  rw [List.foldl_filterMap]
  refine foldl_toDigits (by decide) (fun m d hd _ => ?_) (Nat.lt_succ_self n)
  rw [hexDigit?_digitChar hd]

/-- It is written with hexadecimal digits. -/
theorem isSome_hexDigit?_of_mem_toDigits {n : Nat} {c : Char} (h : c ∈ Nat.toDigits 16 n) : (hexDigit? c).isSome = true := by
  obtain ⟨d, hd, rfl⟩ := exists_digit_of_mem_toDigits (by decide) h
  simp [hexDigit?_digitChar hd]

/-- A hexadecimal digit stands for less than sixteen. -/
theorem hexDigit?_lt {c : Char} {d : Nat} (h : hexDigit? c = some d) : d < 16 := by
  have le_toNat : ∀ {a b : Char}, a ≤ b ↔ a.toNat ≤ b.toNat := Iff.rfl
  unfold hexDigit? at h
  simp only [Bool.and_eq_true, decide_eq_true_eq, le_toNat, Char.reduceToNat] at h
  split at h <;> grind

/-- A run of `k` hexadecimal digits stands for a number of `k` places. -/
theorem hexValue_lt (cs : List Char) : hexValue cs < 16 ^ cs.length := by
  have run : ∀ ds : List Nat, (∀ d ∈ ds, d < 16) → ∀ m, ds.foldl (fun n d => 16 * n + d) m < 16 ^ ds.length * (m + 1) := by
    intro ds hds
    induction ds with
    | nil => simp
    | cons d ds ih =>
      intro m
      have hd : d < 16 := hds d List.mem_cons_self
      have hlt := ih (fun d hd => hds d (List.mem_cons_of_mem _ hd)) (16 * m + d)
      have hle : 16 ^ ds.length * (16 * m + d + 1) ≤ 16 ^ ds.length * (16 * (m + 1)) := Nat.mul_le_mul_left _ (by omega)
      calc _ < 16 ^ ds.length * (16 * m + d + 1) := hlt
        _ ≤ 16 ^ ds.length * (16 * (m + 1)) := hle
        _ = 16 ^ (d :: ds).length * (m + 1) := by rw [List.length_cons, Nat.pow_succ, Nat.mul_assoc]
  have hds : ∀ d ∈ cs.filterMap hexDigit?, d < 16 := by
    intro d hd
    obtain ⟨c, -, hc⟩ := List.mem_filterMap.1 hd
    exact hexDigit?_lt hc
  calc hexValue cs < 16 ^ (cs.filterMap hexDigit?).length := by simpa [hexValue] using run _ hds 0
    _ ≤ 16 ^ cs.length := Nat.pow_le_pow_right (by decide) (List.length_filterMap_le _ _)

end CatalogSync.Text
