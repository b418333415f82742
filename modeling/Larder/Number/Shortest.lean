/-!
# Larder — shortest decimals

The shortest decimal that stands for a binary value. A decimal stands for the value whose
interval it lies in: from halfway to the value below to halfway to the value above, both ends
included if the mantissa is even. All comparisons multiply crosswise and are exact.

Of the decimals with the fewest digits the one closest to the value is taken, and of two equally
close ones the one with the even last digit.
-/

namespace Larder.Number

/-- A positive binary value, `mantissa * 2 ^ exponent`. -/
structure Binary where
  /-- The digits of the value. -/
  mantissa : Nat
  /-- The power of two they count. -/
  exponent : Int
  /-- Whether the next lower value is half as far away as the next higher one. -/
  narrowBelow : Bool
  deriving DecidableEq, Repr

/-- A decimal, `digits * 10 ^ exponent`. -/
structure Decimal where
  /-- The digits of the decimal. -/
  digits : Nat
  /-- The power of ten they count. -/
  exponent : Int
  deriving DecidableEq, Repr

/-- Compares `a * 10 ^ i` with `m * 2 ^ j`. -/
def compareScaled (a : Nat) (i : Int) (m : Nat) (j : Int) : Ordering :=
  compare (a * Nat.pow 10 i.toNat * Nat.pow 2 (-j).toNat)
    (m * Nat.pow 2 j.toNat * Nat.pow 10 (-i).toNat)

namespace Decimal

/-- Whether a decimal lies above the lower end of a value's interval. -/
def isAboveLow (d : Decimal) (x : Binary) : Bool :=
  let low := if x.narrowBelow then 4 * x.mantissa - 1 else 4 * x.mantissa - 2
  match compareScaled d.digits d.exponent low (x.exponent - 2) with
  | .gt => true
  | .eq => x.mantissa % 2 == 0
  | .lt => false

/-- Whether a decimal lies below the upper end of a value's interval. -/
def isBelowHigh (d : Decimal) (x : Binary) : Bool :=
  match compareScaled d.digits d.exponent (4 * x.mantissa + 2) (x.exponent - 2) with
  | .lt => true
  | .eq => x.mantissa % 2 == 0
  | .gt => false

/-- Whether a decimal stands for a value. -/
def standsFor (d : Decimal) (x : Binary) : Bool := d.isAboveLow x && d.isBelowHigh x

end Decimal

namespace Binary

/-- The whole number of times that `10 ^ e` goes into a value. -/
def quotient (x : Binary) (e : Int) : Nat :=
  x.mantissa * Nat.pow 2 x.exponent.toNat * Nat.pow 10 (-e).toNat
    / (Nat.pow 2 (-x.exponent).toNat * Nat.pow 10 e.toNat)

/-- A power of ten so small that a value of double precision has digits above it. -/
def finest : Int := -400

/-- The least power of ten above a value, so that its first digit counts the power before it. -/
def place (x : Binary) : Int := (Nat.toDigits 10 (x.quotient finest)).length + finest

/-- Whether a value is closer to a multiple of `10 ^ e` than to the next one; of two equally close
ones the even one is preferred. -/
def prefersLow (x : Binary) (low : Nat) (e : Int) : Bool :=
  match compareScaled (2 * low + 1) e (2 * x.mantissa) x.exponent with
  | .gt => true
  | .eq => low % 2 == 0
  | .lt => false

/-- The multiple of `10 ^ e` that stands for a value, if there is one: the closest of them. -/
def nearest (x : Binary) (e : Int) : Option Decimal :=
  let low : Decimal := ⟨x.quotient e, e⟩
  let high : Decimal := ⟨x.quotient e + 1, e⟩
  match low.standsFor x, high.standsFor x with
  | true, true => some (if x.prefersLow low.digits e then low else high)
  | true, false => some low
  | false, true => some high
  | false, false => none

/-- The number of digits that tell all values of double precision apart. -/
def mostDigits : Nat := 17

/-- The shortest decimal that stands for a value, among those with enough digits for all. -/
def search (x : Binary) : Option Decimal :=
  (List.range mostDigits).findSome? fun (n : Nat) => x.nearest (x.place - (n + 1))

/-- The decimal that is equal to a value. -/
def exact (x : Binary) : Decimal :=
  ⟨x.mantissa * Nat.pow 2 x.exponent.toNat * Nat.pow 5 (-x.exponent).toNat, min x.exponent 0⟩

/-- The shortest decimal that stands for a value. -/
def shortest (x : Binary) : Decimal := x.search.getD x.exact

end Binary

end Larder.Number
