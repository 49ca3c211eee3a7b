import ManifestPolicy.Text.Blank
import ManifestPolicy.Text.Quoted

/-!
# Durations

A duration in milliseconds, and the two texts of one: the form a person writes,
a whole number followed by a unit, and the form in which it is shown, in the
largest of seconds and milliseconds it reaches.
-/

namespace ManifestPolicy

/-- A length of time in milliseconds. -/
structure Duration where
  milliseconds : Nat
  deriving DecidableEq, Repr, Inhabited

/-- Why a text is no duration; each case keeps the trimmed text. -/
inductive InvalidDuration
  /-- No number that 64 bits hold stands at the start. -/
  | noValue (text : String)
  /-- Nothing follows the number. -/
  | noUnit (text : String)
  /-- What follows the number is no unit. -/
  | unknownUnit (text : String)
  /-- The milliseconds do not fit 64 bits. -/
  | overflow (text : String)
  deriving DecidableEq, Repr

namespace InvalidDuration

/-- The units a reader is offered. -/
def choice : String := "(expected one of 'ms', 's', 'm', 'h', or 'd')"

/-- The wording of an error. -/
def message : InvalidDuration → String
  | .noValue text => quoted text ++ " does not start with a number"
  | .noUnit text => quoted text ++ " has no unit " ++ choice
  | .unknownUnit text => quoted text ++ " has an unknown unit " ++ choice
  | .overflow text => quoted text ++ " is too large"

end InvalidDuration

namespace Duration

/-- The number of values of a 64-bit word. -/
def wordSize : Nat := Nat.pow 2 64

/-- The milliseconds of a unit. -/
def unit? (name : List Char) : Option Nat :=
  if name = ['m', 's'] then some 1
  else if name = ['s'] then some 1000
  else if name = ['m'] then some 60000
  else if name = ['h'] then some 3600000
  else if name = ['d'] then some 86400000
  else none

/-- The number written by decimal digits. -/
def decimalValue (digits : List Char) : Nat :=
  digits.foldl (fun total digit => total * 10 + (digit.toNat - '0'.toNat)) 0

/-- Read a duration: blanks around it do not count, and a bare zero needs no
unit. -/
def parse (text : String) : Except InvalidDuration Duration :=
  let trimmed := Text.trim text.toList
  let shown := String.ofList trimmed
  let digits := trimmed.takeWhile Char.isDigit
  let unit := trimmed.dropWhile Char.isDigit
  let value := decimalValue digits
  if digits = [] ∨ wordSize ≤ value then .error (.noValue shown)
  else if unit = [] then
    if value = 0 then .ok ⟨0⟩ else .error (.noUnit shown)
  else
    match unit? unit with
    | none => .error (.unknownUnit shown)
    | some factor =>
        if value * factor < wordSize then .ok ⟨value * factor⟩ else .error (.overflow shown)

/-- Digits after the point without the zeros that end them. -/
def fraction (thousandths : Nat) : List Char :=
  let digits := Nat.toDigits 10 (thousandths + 1000) |>.drop 1
  (digits.reverse.dropWhile (· == '0')).reverse

/-- The text in which a duration is shown. -/
def describe (duration : Duration) : String :=
  let whole := duration.milliseconds / 1000
  let rest := duration.milliseconds % 1000
  if duration.milliseconds = 0 then "0ns"
  else if whole = 0 then toString rest ++ "ms"
  else if rest = 0 then toString whole ++ "s"
  else toString whole ++ "." ++ String.ofList (fraction rest) ++ "s"

end Duration

end ManifestPolicy
