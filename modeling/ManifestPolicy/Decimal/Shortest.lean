import ManifestPolicy.Decimal.Binary64

/-!
# Shortest decimal text

The shortest decimal number that rounds back to a binary value, and the nearest
to it among those of that length. How the digits are written is a separate
decision, recorded in a `NumberStyle`.
-/

namespace ManifestPolicy

/-- A decimal number: its digits times ten to its exponent. -/
structure Decimal where
  digits : Nat
  exponent : Int
  deriving DecidableEq, Repr

namespace Decimal

/-- The interval of numbers that round to `significand * 2 ^ exponent`, in
quarters of its last binary place. -/
structure Interval where
  low : Nat
  high : Nat
  closed : Bool

/-- The rounding interval of a positive value. -/
def Interval.of (significand : Nat) (exponent : Int) : Interval where
  low :=
    if significand = Nat.pow 2 52 ∧ Binary64.leastExponent < exponent then 4 * significand - 1
    else 4 * significand - 2
  high := 4 * significand + 2
  closed := significand % 2 == 0

/-- Whether a quotient, in quarters of the last binary place, is inside. -/
def Interval.contains (interval : Interval) (numerator denominator : Nat) : Bool :=
  if interval.closed then
    interval.low * denominator ≤ numerator && numerator ≤ interval.high * denominator
  else
    interval.low * denominator < numerator && numerator < interval.high * denominator

/-- `10 ^ power` divided by `2 ^ (exponent - 2)`, as a quotient: how many
quarters of the last binary place a decimal unit has. -/
def unit (power exponent : Int) : Nat × Nat :=
  let tens := if 0 ≤ power then (Nat.pow 10 power.toNat, 1) else (1, Nat.pow 10 (-power).toNat)
  Binary64.scaled tens.1 tens.2 (exponent - 2)

/-- Whether `significand * 2 ^ exponent` is below `10 ^ power`. -/
def below (significand : Nat) (exponent power : Int) : Bool :=
  let ten := unit power exponent
  4 * significand * ten.2 < ten.1

/-- The number of digits before the decimal point of a positive value, counted
negatively when the digits start later. -/
def pointPosition (significand : Nat) (exponent : Int) : Int :=
  let estimate := (((significand.log2 : Int) + exponent) * 30103).fdiv 100000
  if below significand exponent estimate then estimate
  else if below significand exponent (estimate + 1) then estimate + 1
  else estimate + 2

/-- The nearer of a value's two neighbours on the grid of multiples of a power
of ten that rounds back to the value. -/
def onGrid? (significand : Nat) (exponent power : Int) : Option Decimal :=
  let grid := unit power exponent
  let value := 4 * significand * grid.2
  let floor := value / grid.1
  let interval := Interval.of significand exponent
  let lower := interval.contains (floor * grid.1) grid.2
  let upper := interval.contains ((floor + 1) * grid.1) grid.2
  let toLower := value - floor * grid.1
  let toUpper := (floor + 1) * grid.1 - value
  if lower && (!upper || toLower < toUpper || (toLower == toUpper && floor % 2 == 0)) then
    some ⟨floor, power⟩
  else if upper then some ⟨floor + 1, power⟩
  else none

/-- Search the grids from coarse to fine, beginning with the power of ten just above
the value. Seventeen digits always suffice. -/
def search (significand : Nat) (exponent : Int) (position : Int) : Nat → Decimal
  | 0 => (onGrid? significand exponent (position - 17)).getD ⟨0, 0⟩
  | finer + 1 =>
      match onGrid? significand exponent (position - 17 + (finer + 1 : Nat)) with
      | some decimal => decimal
      | none => search significand exponent position finer

/-- The shortest decimal that rounds to a positive value. -/
def shortest (significand : Nat) (exponent : Int) : Decimal :=
  search significand exponent (pointPosition significand exponent) 17

end Decimal

/-- How the digits of a number are laid out. -/
structure NumberStyle where
  /-- Positional text is used while the point stands after more places than
  this. -/
  leastPoint : Int
  /-- Positional text is used while the point stands after at most this many
  places. -/
  greatestPoint : Int
  /-- What stands before a positive exponent. -/
  positiveExponent : String
  /-- The text of positive infinity. -/
  infinity : String
  /-- The text of negative infinity. -/
  negativeInfinity : String
  /-- The text of the value without a number. -/
  notNumber : String

namespace NumberStyle

/-- The text of a positive decimal. -/
def write (style : NumberStyle) (decimal : Decimal) : String :=
  let digits := (Nat.toDigits 10 decimal.digits)
  let count : Int := digits.length
  let point := count + decimal.exponent
  let zeros (number : Int) := List.replicate number.toNat '0'
  if 0 ≤ decimal.exponent ∧ point ≤ style.greatestPoint then
    String.ofList (digits ++ zeros decimal.exponent) ++ ".0"
  else if 0 < point ∧ point ≤ style.greatestPoint then
    String.ofList (digits.take point.toNat ++ '.' :: digits.drop point.toNat)
  else if style.leastPoint < point ∧ point ≤ 0 then
    "0." ++ String.ofList (zeros (-point) ++ digits)
  else
    let fraction := if digits.length ≤ 1 then digits else digits.take 1 ++ '.' :: digits.drop 1
    let mark := if 0 ≤ point - 1 then "e" ++ style.positiveExponent else "e"
    String.ofList fraction ++ mark ++ toString (point - 1)

/-- The text of a binary value: the shortest digits that read back. -/
def render (style : NumberStyle) : Binary64 → String
  | .nan => style.notNumber
  | .infinite negative => if negative then style.negativeInfinity else style.infinity
  | .finite negative significand exponent =>
      let sign := if negative then "-" else ""
      if significand = 0 then sign ++ "0.0"
      else sign ++ style.write (Decimal.shortest significand exponent)

end NumberStyle

end ManifestPolicy
