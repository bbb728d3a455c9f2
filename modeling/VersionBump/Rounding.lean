/-!
# Rounded fractions

How alike two words are is measured with 53 binary digits: every step of the calculation is rounded
to the nearest number that has so many, and half-way between two of them to the even one.  Two
measures that would be equal as exact fractions can therefore differ.

A number is held as a fraction.  `Fraction.round` rounds it, and leaves a power of two as the
denominator; `add` and `divide` calculate exactly and then round.
-/

namespace VersionBump

/-- A fraction of natural numbers. -/
structure Fraction where
  numerator : Nat
  denominator : Nat
deriving DecidableEq

namespace Fraction

/-- How many binary digits a rounded number has. -/
def precision : Nat := 53

/-- The natural number nearest to a quotient, and half-way between two of them the even one. -/
def nearest (numerator denominator : Nat) : Nat :=
  let below := numerator / denominator
  let twice := 2 * (numerator % denominator)
  if denominator < twice ∨ (twice = denominator ∧ below % 2 = 1) then below + 1 else below

/-- How many binary places after the point a fraction is rounded to, so that it has `precision`
digits in all. -/
def places (x : Fraction) : Nat :=
  let few := precision - 1 + x.denominator.log2 - x.numerator.log2
  if x.numerator <<< few < x.denominator <<< (precision - 1) then few + 1 else few

/-- **Rounding** to the nearest number with `precision` binary digits. -/
def round (x : Fraction) : Fraction :=
  ⟨nearest (x.numerator <<< x.places) x.denominator, 1 <<< x.places⟩

/-- The rounded sum. -/
def add (x y : Fraction) : Fraction :=
  round ⟨x.numerator * y.denominator + y.numerator * x.denominator, x.denominator * y.denominator⟩

/-- The rounded quotient by a natural number. -/
def divide (x : Fraction) (n : Nat) : Fraction :=
  round ⟨x.numerator, n * x.denominator⟩

/-- Whether the first fraction is less than the second. -/
def less (x y : Fraction) : Bool :=
  decide (x.numerator * y.denominator < y.numerator * x.denominator)

end Fraction

end VersionBump
