/-
Binary floating point numbers of 64 bits without sign, infinity and not-a-number: a mantissa
below 2^53 and an exponent, denoting mantissa * 2^exponent. `nearest?` rounds a quotient of natural
numbers to the nearest of them, a tie to the even mantissa, in exact arithmetic; products and
quotients of such numbers are rounded the same way.
-/
namespace ManagedDatabase

/-- The number `mantissa * 2 ^ exponent`. -/
structure Binary64 where
  mantissa : Nat
  exponent : Int
  deriving DecidableEq, Repr

namespace Binary64

/-- `num / den` rounded to the nearest natural number, a tie to the even one. -/
def roundQuotient (num den : Nat) : Nat :=
  let q := num / den
  let r := num % den
  if 2 * r < den then q else if den < 2 * r then q + 1 else q + q % 2

/-- The quotient `num / den / 2 ^ e` as a quotient of natural numbers. -/
def descale (num den : Nat) (e : Int) : Nat × Nat :=
  (num * Nat.pow 2 (-e).toNat, den * Nat.pow 2 e.toNat)

/-- The largest `e` with `2 ^ e ≤ num / den`, for positive numbers. -/
def magnitude (num den : Nat) : Int :=
  let e : Int := (Nat.log2 num : Int) - Nat.log2 den
  let scaled := descale num den e
  if scaled.2 ≤ scaled.1 then e else e - 1

/-- The least exponent; numbers below `2 ^ (-1022)` have it with a short mantissa. -/
def leastExponent : Int := -1074

/-- The number nearest to `num / den`; none if that is too large. -/
def nearest? (num den : Nat) : Option Binary64 :=
  if num = 0 then some ⟨0, leastExponent⟩
  else
    let e := max (magnitude num den - 52) leastExponent
    let scaled := descale num den e
    let m := roundQuotient scaled.1 scaled.2
    let x : Binary64 := if m = Nat.pow 2 53 then ⟨Nat.pow 2 52, e + 1⟩ else ⟨m, e⟩
    if x.exponent ≤ 971 then some x else none

/-- The number nearest to a product; none if that is too large. -/
def mul? (x y : Binary64) : Option Binary64 :=
  let e := x.exponent + y.exponent
  nearest? (x.mantissa * y.mantissa * Nat.pow 2 e.toNat) (Nat.pow 2 (-e).toNat)

/-- The number nearest to a quotient, where `y` is not zero; none if that is too large. -/
def div? (x y : Binary64) : Option Binary64 :=
  let e := x.exponent - y.exponent
  nearest? (x.mantissa * Nat.pow 2 e.toNat) (y.mantissa * Nat.pow 2 (-e).toNat)

/-- The number nearest to a power of ten; none beyond `10 ^ 308`. -/
def powerOfTen? (k : Nat) : Option Binary64 := if k ≤ 308 then nearest? (Nat.pow 10 k) 1 else none

/-- A number times `10 ^ k`, with the power of ten rounded before and the result after; where the
power is no number, what is left of it follows in further steps. -/
def scale? (x : Binary64) (k : Int) : Option Binary64 :=
  if x.mantissa = 0 then some x
  else if 0 ≤ k then (powerOfTen? k.toNat).bind x.mul?
  else if -308 ≤ k then (powerOfTen? (-k).toNat).bind x.div?
  else ((powerOfTen? 308).bind x.div?).bind fun y => scale? y (k + 308)
termination_by (-k).toNat

/-- The number of some digits before a power of ten, each rounded by itself and then their product:
close to `digits * 10 ^ exponent`, but not always the nearest. None if it is too large. -/
def ofDecimal? (digits : Nat) (exponent : Int) : Option Binary64 :=
  (nearest? digits 1).bind fun x => x.scale? exponent

/-- A number without fraction as a natural number; fractions are cut off. -/
def floor (x : Binary64) : Nat :=
  x.mantissa * Nat.pow 2 x.exponent.toNat / Nat.pow 2 (-x.exponent).toNat

end Binary64
end ManagedDatabase
