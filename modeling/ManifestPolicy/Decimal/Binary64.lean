/-!
# Binary floating-point numbers

The values of the 64-bit binary format, as exact numbers: a significand below
`2 ^ 53` times a power of two no smaller than `2 ^ (-1074)`. Every operation is
the exact result rounded once, to the nearest value and to an even significand
on a tie, so it is stated in natural-number arithmetic alone.
-/

namespace ManifestPolicy

/-- A value of the 64-bit binary format. A finite value is its significand
times two to its exponent; values built by `Binary64.round` have the greatest
significand their exponent range permits, so equal values are equal terms. -/
inductive Binary64
  | finite (negative : Bool) (significand : Nat) (exponent : Int)
  | infinite (negative : Bool)
  | nan
  deriving DecidableEq, Repr, Inhabited

namespace Binary64

/-- Smallest exponent of a finite value. -/
def leastExponent : Int := -1074

/-- Greatest exponent of a finite value. -/
def greatestExponent : Int := 971

/-- Zero with a sign. -/
def zero (negative : Bool) : Binary64 := .finite negative 0 leastExponent

/-- A quotient rounded to the nearest natural number, and to an even one on a
tie. -/
def roundQuotient (numerator denominator : Nat) : Nat :=
  let quotient := numerator / denominator
  let remainder := numerator % denominator
  if 2 * remainder < denominator then quotient
  else if denominator < 2 * remainder then quotient + 1
  else quotient + quotient % 2

/-- Scale a quotient by two to the negation of an exponent. -/
def scaled (numerator denominator : Nat) (exponent : Int) : Nat × Nat :=
  if 0 ≤ exponent then (numerator, denominator * Nat.pow 2 exponent.toNat)
  else (numerator * Nat.pow 2 (-exponent).toNat, denominator)

/-- The exponent at which a positive quotient has a 53-bit integer part, or the
least exponent when that is greater. -/
def fittingExponent (numerator denominator : Nat) : Int :=
  let estimate : Int := (numerator.log2 : Int) - (denominator.log2 : Int) - 52
  let fraction := scaled numerator denominator estimate
  let exponent := if fraction.1 / fraction.2 < Nat.pow 2 52 then estimate - 1 else estimate
  max exponent leastExponent

/-- The value nearest to a quotient with a positive denominator. -/
def round (negative : Bool) (numerator denominator : Nat) : Binary64 :=
  if numerator = 0 then zero negative
  else
    let exponent := fittingExponent numerator denominator
    let fraction := scaled numerator denominator exponent
    let significand := roundQuotient fraction.1 fraction.2
    let carried := significand = Nat.pow 2 53
    let significand := if carried then Nat.pow 2 52 else significand
    let exponent := if carried then exponent + 1 else exponent
    if greatestExponent < exponent then .infinite negative
    else .finite negative significand exponent

/-- The value nearest to a natural number. -/
def ofNat (number : Nat) : Binary64 := round false number 1

/-- The value nearest to `digits` times ten to `exponent`. A number beyond the
range of the format is decided by its size alone. -/
def ofDecimal (negative : Bool) (digits : Nat) (exponent : Int) : Binary64 :=
  let magnitude : Int := (Nat.toDigits 10 digits).length + exponent
  if digits = 0 ∨ magnitude < -400 then zero negative
  else if 400 < magnitude then .infinite negative
  else if 0 ≤ exponent then round negative (digits * Nat.pow 10 exponent.toNat) 1
  else round negative digits (Nat.pow 10 (-exponent).toNat)

/-- Change the sign. -/
def negate : Binary64 → Binary64
  | .finite negative significand exponent => .finite (!negative) significand exponent
  | .infinite negative => .infinite (!negative)
  | .nan => .nan

/-- Whether a value is zero of either sign. -/
def isZero : Binary64 → Bool
  | .finite _ significand _ => significand == 0
  | _ => false

/-- Whether a value is finite. -/
def isFinite : Binary64 → Bool
  | .finite .. => true
  | _ => false

/-- Product of two finite values; anything else gives the value without a
number. -/
def multiply : Binary64 → Binary64 → Binary64
  | .finite leftNegative left leftExponent, .finite rightNegative right rightExponent =>
      let exponent := leftExponent + rightExponent
      let fraction := scaled (left * right) 1 (-exponent)
      round (leftNegative != rightNegative) fraction.1 fraction.2
  | _, _ => .nan

/-- Quotient of two finite values, the second of them not zero; anything else
gives the value without a number. -/
def divide : Binary64 → Binary64 → Binary64
  | .finite leftNegative left leftExponent, .finite rightNegative right rightExponent =>
      if right = 0 then .nan
      else
        let fraction := scaled left right (rightExponent - leftExponent)
        round (leftNegative != rightNegative) fraction.1 fraction.2
  | _, _ => .nan

/-- Whether two values are the same number: the two zeros are, and so is the
value without a number with itself. -/
def same (left right : Binary64) : Bool :=
  left == right || (left.isZero && right.isZero)

end Binary64

end ManifestPolicy
