/-!
# Punycode

A label with characters beyond ASCII is written in ASCII: its ASCII characters, and after the last `-` where the others go. The
others are taken in increasing order, each as the distance from the one before in a number system whose digits change weight
with the bias.
-/

namespace CatalogSync.Url.Punycode

/-- The character of a digit from 0 to 35. -/
def digitChar (d : Nat) : Char := if d < 26 then Char.ofNat (0x61 + d) else Char.ofNat (0x30 + d - 26)

/-- The digit of a character. -/
def digitValue? (c : Char) : Option Nat :=
  if 'a' ≤ c && c ≤ 'z' then some (c.toNat - 0x61)
  else if 'A' ≤ c && c ≤ 'Z' then some (c.toNat - 0x41)
  else if '0' ≤ c && c ≤ '9' then some (c.toNat - 0x30 + 26)
  else none

/-- The threshold at the place `k` of a number. -/
def threshold (k bias : Nat) : Nat := if k ≤ bias then 1 else if bias + 26 ≤ k then 26 else k - bias

theorem threshold_pos (k bias : Nat) : 1 ≤ threshold k bias := by
  unfold threshold
  split
  · omega
  · split <;> omega

/-- Divides the distance until it is small, and counts the places that takes. -/
def adaptLoop (delta k : Nat) : Nat × Nat := if 455 < delta then adaptLoop (delta / 35) (k + 36) else (delta, k)
termination_by delta

/-- The bias after a distance, given how many characters are placed. -/
def adapt (delta count : Nat) (first : Bool) : Nat :=
  let delta := if first then delta / 700 else delta / 2
  let (delta, k) := adaptLoop (delta + delta / count) 0
  k + 36 * delta / (delta + 38)

/-- The digits of a distance from the place `k` on. -/
def encodeNumber (q k bias : Nat) : List Char :=
  if q < threshold k bias then [digitChar q]
  else
    digitChar (threshold k bias + (q - threshold k bias) % (36 - threshold k bias)) ::
      encodeNumber ((q - threshold k bias) / (36 - threshold k bias)) (k + 36) bias
termination_by q
decreasing_by
  have := threshold_pos k bias
  exact Nat.lt_of_le_of_lt (Nat.div_le_self _ _) (by omega)

/-- Goes through a label for the code point `n`: the distance grows by each smaller character, and at each `n` it is written and
starts anew. The state is the distance, the bias, the count of characters placed and whether one was placed yet. -/
def encodePass (n : Nat) (delta bias count : Nat) (first : Bool) : List Char → List Char × Nat × Nat × Nat × Bool
  | [] => ([], delta, bias, count, first)
  | c :: rest =>
    if c.toNat < n then encodePass n (delta + 1) bias count first rest
    else if c.toNat = n then
      let (out, state) := encodePass n 0 (adapt delta (count + 1) first) (count + 1) false rest
      (encodeNumber delta 36 bias ++ out, state)
    else encodePass n delta bias count first rest

/-- Writes the positions of the given code points, each greater than the one before. -/
def encodePoints (label : List Char) : List Nat → Nat → Nat → Nat → Nat → Bool → List Char
  | [], _, _, _, _, _ => []
  | m :: rest, n, delta, bias, count, first =>
    let (out, delta, bias, count, first) := encodePass m (delta + (m - n) * (count + 1)) bias count first label
    out ++ encodePoints label rest (m + 1) (delta + 1) bias count first

/-- A label in ASCII. -/
def encode (label : List Char) : List Char :=
  let basic := label.filter fun c => c.toNat < 0x80
  let points := ((label.filter fun c => 0x80 ≤ c.toNat).map Char.toNat).mergeSort.eraseDups
  basic ++ (if basic.isEmpty then [] else ['-']) ++ encodePoints label points 0x80 0 72 basic.length true

/-- The greatest number that distances and code points may reach. -/
def limit : Nat := 0xffffffff

/-- Reads distances into the code points placed so far. `n` is the least code point that may come next, `i` the distance read so
far, counted from `start`, `weight` the weight of its next digit at the place `k`. -/
def decodeDigits (out : List Nat) (n i start weight k bias : Nat) : List Char → Option (List Nat)
  | [] => if k = 36 then some out else none
  | c :: rest => do
    let d ← digitValue? c
    let i := i + d * weight
    let t := threshold k bias
    if limit < i then none
    else if d < t then
      let count := out.length + 1
      let m := n + i / count
      let place := i % count
      if 0x10ffff < m ∨ (0xd800 ≤ m ∧ m ≤ 0xdfff) then none
      else
        decodeDigits (out.take place ++ m :: out.drop place) m (place + 1) (place + 1) 1 36
          (adapt (i - start) count (start == 0)) rest
    else if limit < weight * (36 - t) then none
    else decodeDigits out n i start (weight * (36 - t)) (k + 36) bias rest

/-- The label that ASCII text is written for, none when it is not well formed. -/
def decode? (text : List Char) : Option (List Char) := do
  let tail := (text.reverse.takeWhile (· != '-')).reverse
  let basic := text.take (text.length - tail.length - 1)
  let digits := if basic.isEmpty then text else tail
  let points ← decodeDigits (basic.map Char.toNat) 0x80 0 0 1 36 72 digits
  return points.map Char.ofNat

end CatalogSync.Url.Punycode
