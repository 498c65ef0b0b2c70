/-
The shortest decimal that reads back as a given binary number, and the two layouts in which the
program writes it. All comparisons are exact: the reals that round to `m * 2^e` are those between
the midpoints to its neighbours, the midpoints included when `m` is even; on the coarsest decimal
grid that meets this interval the point nearest to the number is taken, of two equally near ones
the even one.
-/
import ManagedDatabase.Decimal.Binary64

namespace ManagedDatabase

/-- The number `digits * 10 ^ exponent`. -/
structure Decimal where
  digits : Nat
  exponent : Int
  deriving DecidableEq, Repr

namespace Decimal

/-- The interval of reals that round to a number, in units of which the number is `value`. -/
structure Basin where
  low : Nat
  value : Nat
  high : Nat
  closed : Bool
  /-- The unit is `unitNum / unitDen`. -/
  unitNum : Nat
  unitDen : Nat

/-- A quarter of the last place is the unit; below a power of two the spacing is half as wide. -/
def Basin.of (x : Binary64) : Basin :=
  let v := 4 * x.mantissa
  let narrow := x.mantissa = Nat.pow 2 52 && Binary64.leastExponent < x.exponent
  let e := x.exponent - 2
  { low := if narrow then v - 1 else v - 2
    value := v
    high := v + 2
    closed := x.mantissa % 2 = 0
    unitNum := Nat.pow 2 e.toNat
    unitDen := Nat.pow 2 (-e).toNat }

/-- Whether `d * 10 ^ k` rounds to the number. -/
def Basin.holds (b : Basin) (d : Nat) (k : Int) : Bool :=
  let point := d * Nat.pow 10 k.toNat * b.unitDen
  let scale := Nat.pow 10 (-k).toNat * b.unitNum
  if b.closed then b.low * scale ≤ point && point ≤ b.high * scale
  else b.low * scale < point && point < b.high * scale

/-- The best point of the grid of multiples of `10 ^ k`, if one rounds to the number. -/
def Basin.onGrid (b : Basin) (k : Int) : Option Nat :=
  let num := b.value * b.unitNum * Nat.pow 10 (-k).toNat
  let den := b.unitDen * Nat.pow 10 k.toNat
  let d := num / den
  let below := d != 0 && b.holds d k
  let above := b.holds (d + 1) k
  if below && above then
    let rest := 2 * (num % den)
    some (if rest < den || rest = den && d % 2 = 0 then d else d + 1)
  else if below then some d
  else if above then some (d + 1)
  else none

/-- The first grid that meets the interval, going down from `10 ^ k`. -/
def Basin.search (b : Basin) : Nat → Int → Decimal
  | 0, k => ⟨0, k⟩
  | steps + 1, k =>
    match b.onGrid k with
    | some d => ⟨d, k⟩
    | none => b.search steps (k - 1)

/-- The same number without trailing zeros among its digits. -/
def trimZeros (d : Decimal) : Decimal :=
  let rest := (Nat.toDigits 10 d.digits).reverse.takeWhile (· == '0')
  if d.digits = 0 then ⟨0, 0⟩
  else ⟨d.digits / Nat.pow 10 rest.length, d.exponent + rest.length⟩

/-- The shortest decimal that reads back as `x`, of those the nearest one. -/
def shortest (x : Binary64) : Decimal :=
  if x.mantissa = 0 then ⟨0, 0⟩
  else
    let b := Basin.of x
    let num := b.value * b.unitNum
    let top : Int :=
      if b.unitDen ≤ num then ((Nat.toDigits 10 (num / b.unitDen)).length : Int)
      else 1 - ((Nat.toDigits 10 (b.unitDen / num)).length : Int)
    trimZeros (b.search 24 top)

/-- How many digits stand before the decimal point. -/
def pointPosition (d : Decimal) : Int :=
  (Nat.toDigits 10 d.digits).length + d.exponent

/-- The digits written out in full, without exponent, a fraction only where there is one. -/
def plain (d : Decimal) : String :=
  let ds := Nat.toDigits 10 d.digits
  let p := d.pointPosition
  let zeros (n : Nat) := List.replicate n '0'
  String.ofList <|
    if 0 ≤ d.exponent then ds ++ zeros d.exponent.toNat
    else if 0 < p then ds.take p.toNat ++ '.' :: ds.drop p.toNat
    else '0' :: '.' :: zeros (-p).toNat ++ ds

/-- The digits written out in full with at least one digit after the point. -/
def pointed (d : Decimal) : String :=
  if 0 ≤ d.exponent then d.plain ++ ".0" else d.plain

/-- The layout of numbers in documents: positional while the point lies at most five places left
and sixteen places right of the first digit, else with an exponent that has a sign. -/
def compact (d : Decimal) : String :=
  let ds := Nat.toDigits 10 d.digits
  let p := d.pointPosition
  if d.digits = 0 then "0.0"
  else if -5 < p && p ≤ 16 then d.pointed
  else
    let tail := if ds.length = 1 then [] else '.' :: ds.drop 1
    String.ofList (ds.take 1 ++ tail) ++ (if 0 < p then "e+" else "e") ++ toString (p - 1)

end Decimal
end ManagedDatabase
