import CatalogSync.Number.Binary64

/-!
# The shortest decimal that reads back

Among the decimals that round to a given binary64 number the ones with the fewest digits are found by trying one digit, then
two, up to seventeen: at each count only the two decimals of that many digits next to the number can qualify. Of two that do,
the nearer is taken. How the digits are then laid out is a `DecimalLayout`, one value per written form.
-/

namespace CatalogSync

/-- A positive decimal `digits * 10 ^ exponent`. -/
structure Decimal where
  digits : Nat
  exponent : Int
  deriving DecidableEq, Repr

namespace Decimal

/-- `num / den` divided by `10 ^ k`, as a numerator and a denominator. -/
def scaleDown (num den : Nat) (k : Int) : Nat × Nat :=
  if 0 ≤ k then (num, den * Nat.pow 10 k.toNat) else (num * Nat.pow 10 (-k).toNat, den)

/-- The decimal point's place: the `p` with `10 ^ (p - 1) ≤ num / den < 10 ^ p`, found from a guess that is at most one off. -/
def place (num den : Nat) : Int :=
  let guess : Int := ((Nat.toDigits 10 num).length : Int) - ((Nat.toDigits 10 den).length : Int)
  let (n, d) := scaleDown num den guess
  if d ≤ n then guess + 1 else guess

/-- Drops the trailing zeros of the digits, at most `fuel` of them. -/
def trim (fuel : Nat) (x : Decimal) : Decimal :=
  match fuel with
  | 0 => x
  | fuel + 1 => if x.digits ≠ 0 ∧ x.digits % 10 = 0 then trim fuel ⟨x.digits / 10, x.exponent + 1⟩ else x

end Decimal

namespace Binary64

/-- The gap between a number and the midpoints to its neighbours, in units of a quarter of the last place: below it the gap is
half as wide when the significand is the smallest of its exponent. -/
def roundingGaps (x : Binary64) : Nat × Nat :=
  (if x.significand = leastFull ∧ minExponent < x.exponent then 1 else 2, 2)

/-- Whether `num / den` rounds to the absolute value of `x`: it lies between the midpoints to the neighbours, which themselves
round to `x` exactly when the significand is even. -/
def roundsFrom (x : Binary64) (num den : Nat) : Bool :=
  let (below, above) := x.roundingGaps
  let (lo, loDen) := scaleDown (4 * x.significand - below) 1 (-(x.exponent - 2))
  let (hi, hiDen) := scaleDown (4 * x.significand + above) 1 (-(x.exponent - 2))
  let low := lo * den
  let high := hi * den
  if x.significand % 2 = 0 then low ≤ num * loDen && num * hiDen ≤ high else low < num * loDen && num * hiDen < high

/-- The neighbour of `x` with at most `count` digits that rounds to `x`, the nearer of two. -/
def neighbour? (x : Binary64) (count : Nat) : Option Decimal :=
  let (num, den) := x.ratio
  let k := Decimal.place num den - count
  let (n, d) := Decimal.scaleDown num den k
  let floor := n / d
  let hits (digits : Nat) : Bool :=
    let (a, b) := Decimal.scaleDown digits 1 (-k)
    x.roundsFrom a b
  match hits floor && floor ≠ 0, hits (floor + 1) with
  | true, true => some ⟨if 2 * (n % d) ≤ d then floor else floor + 1, k⟩
  | true, false => some ⟨floor, k⟩
  | false, true => some ⟨floor + 1, k⟩
  | false, false => none

/-- The shortest decimal that reads back as the absolute value of a number other than zero. -/
def shortest (x : Binary64) : Decimal :=
  match (List.range 17).findSome? fun i => x.neighbour? (i + 1) with
  | some d => d.trim 20
  | none => ⟨0, 0⟩

end Binary64

/-- How a decimal is laid out: where the decimal point may stand for the digits to be written without an exponent, and whether a
whole number gets a decimal point. -/
structure DecimalLayout where
  /-- The least place of the decimal point written without an exponent. -/
  minPlace : Option Int
  /-- The greatest place of the decimal point written without an exponent. -/
  maxPlace : Option Int
  /-- Whether a number without a fraction is written with `.0`. -/
  pointZero : Bool

namespace DecimalLayout

/-- Numbers in JSON text: positional from `0.00001` up to sixteen digits before the point, always with a point or an exponent. -/
def json : DecimalLayout := ⟨some (-4), some 16, true⟩

/-- Numbers in messages: always positional, always with a point. -/
def message : DecimalLayout := ⟨none, none, true⟩

/-- Numbers as plain text: always positional, whole numbers without a point. -/
def plain : DecimalLayout := ⟨none, none, false⟩

/-- The digits with a point after the first `place` of them, padded by zeros on either side. -/
def positional (layout : DecimalLayout) (digits : List Char) (place : Int) : List Char :=
  if place ≤ 0 then '0' :: '.' :: (List.replicate (-place).toNat '0' ++ digits)
  else if digits.length ≤ place.toNat then
    digits ++ List.replicate (place.toNat - digits.length) '0' ++ (if layout.pointZero then ['.', '0'] else [])
  else digits.take place.toNat ++ '.' :: digits.drop place.toNat

/-- The digits with a point after the first, and the exponent. -/
def scientific (digits : List Char) (place : Int) : List Char :=
  let mantissa := match digits with
    | [] => []
    | [d] => [d]
    | d :: rest => d :: '.' :: rest
  mantissa ++ 'e' :: (toString (place - 1)).toList

/-- The text of a number. -/
def render (layout : DecimalLayout) (x : Binary64) : String :=
  let sign := if x.negative then ['-'] else []
  if x.isZero then String.ofList (sign ++ '0' :: (if layout.pointZero then ['.', '0'] else []))
  else
    let decimal := x.shortest
    let digits := Nat.toDigits 10 decimal.digits
    let place : Int := digits.length + decimal.exponent
    let inRange := layout.minPlace.all (· ≤ place) && layout.maxPlace.all (place ≤ ·)
    String.ofList (sign ++ (if inRange then layout.positional digits place else scientific digits place))

end DecimalLayout

end CatalogSync
