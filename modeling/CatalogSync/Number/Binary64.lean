/-!
# Finite binary64 numbers in exact arithmetic

A `Binary64` is a sign, a whole significand and a power of two, so every value has an exact meaning in `Nat` and `Int` and no
opaque machine operation is involved. The one source of rounding is `roundRatio`, to the nearest representable value with
ties to the even significand; products, quotients and readings of decimals are exact values handed to it.
-/

namespace CatalogSync

/-- A finite binary64 number: `significand * 2 ^ exponent`, negated when `negative` holds. Zero keeps its sign. -/
structure Binary64 where
  negative : Bool
  significand : Nat
  exponent : Int
  deriving DecidableEq, Repr

namespace Binary64

/-- The smallest exponent of a finite number; at it the significand may have fewer than 53 bits. -/
def minExponent : Int := -1074

/-- The largest exponent of a finite number. -/
def maxExponent : Int := 971

/-- The least significand of 53 bits. -/
def leastFull : Nat := 0x10000000000000

/-- The zero of the given sign. -/
def zero (negative : Bool) : Binary64 := ⟨negative, 0, minExponent⟩

/-- Whether a number is a zero of either sign. -/
def isZero (x : Binary64) : Bool := x.significand == 0

/-- The opposite number. -/
def neg (x : Binary64) : Binary64 := { x with negative := !x.negative }

/-- Numeric equality: the sign of a zero does not count. -/
def same (x y : Binary64) : Bool := (x.isZero && y.isZero) || x == y

/-- `num / den` rounded to a whole number, a half going to the even neighbour. -/
def divRoundEven (num den : Nat) : Nat :=
  let q := num / den
  let r := 2 * (num % den)
  if r < den then q else if r > den then q + 1 else q + q % 2

/-- `num / den` divided by `2 ^ e`, as a numerator and a denominator. -/
def scaleDown (num den : Nat) (e : Int) : Nat × Nat :=
  if 0 ≤ e then (num, den <<< e.toNat) else (num <<< (-e).toNat, den)

/-- The exponent at which `num / den` has a whole part of 53 bits, or the smallest exponent when that is below it. -/
def exponentFor (num den : Nat) : Int :=
  let guess : Int := (num.log2 : Int) - (den.log2 : Int) - 52
  let (n, d) := scaleDown num den guess
  max minExponent (if n / d < leastFull then guess - 1 else guess)

/-- The number nearest to `num / den`, none when it is too large to be finite. -/
def roundRatio (negative : Bool) (num den : Nat) : Option Binary64 :=
  if num = 0 ∨ den = 0 then some (zero negative)
  else
    let e := exponentFor num den
    let (n, d) := scaleDown num den e
    let m := divRoundEven n d
    let (m, e) := if m = 2 * leastFull then (leastFull, e + 1) else (m, e)
    if maxExponent < e then none else some ⟨negative, m, e⟩

/-- The absolute value as a numerator and a denominator. -/
def ratio (x : Binary64) : Nat × Nat := scaleDown x.significand 1 (-x.exponent)

/-- The number nearest to a natural number. -/
def ofNat (n : Nat) : Option Binary64 := roundRatio false n 1

/-- The rounded product. -/
def mul (x y : Binary64) : Option Binary64 :=
  let (a, b) := x.ratio
  let (c, d) := y.ratio
  roundRatio (x.negative != y.negative) (a * c) (b * d)

/-- The rounded quotient by a number other than zero. -/
def div (x y : Binary64) : Option Binary64 :=
  let (a, b) := x.ratio
  let (c, d) := y.ratio
  roundRatio (x.negative != y.negative) (a * d) (b * c)

/-- The number nearest to `digits * 10 ^ exponent`. Exponents far outside the range are decided without building the power. -/
def ofDecimal (negative : Bool) (digits : Nat) (exponent : Int) : Option Binary64 :=
  let size : Int := (Nat.toDigits 10 digits).length
  if digits = 0 ∨ size + exponent < -400 then some (zero negative)
  else if 400 < size + exponent then none
  else if 0 ≤ exponent then roundRatio negative (digits * Nat.pow 10 exponent.toNat) 1
  else roundRatio negative digits (Nat.pow 10 (-exponent).toNat)

/-- The whole number nearest to the absolute value, a half going away from zero. -/
def roundMagnitude (x : Binary64) : Nat :=
  let (n, d) := x.ratio
  (2 * n + d) / (2 * d)

end Binary64

end CatalogSync
