import AgentTeams.Decimal.Binary

/-!
The shortest decimal that reads back as a given float. A decimal reads back if it lies in the
interval of numbers that are nearer to the float than to its neighbours; the ends count when the
mantissa is even. Grids of one, two, three, … digits are tried in turn, and on the first grid with
a point in the interval the point nearest to the float is taken.
-/
namespace AgentTeams.Decimal

/-- A decimal: `digits` times ten to the power `exponent`. -/
structure Scientific where
  digits : Nat
  exponent : Int
deriving DecidableEq

namespace Scientific

/-- Drop zeros at the end; the last argument bounds their number. -/
def trim (digits : Nat) (exponent : Int) : Nat → Scientific
  | 0 => ⟨digits, exponent⟩
  | fuel + 1 =>
      if digits ≠ 0 ∧ digits % 10 = 0 then trim (digits / 10) (exponent + 1) fuel
      else ⟨digits, exponent⟩

end Scientific

/-- Compare `digits` steps of size `10 ^ unit` with `numerator / denominator`. -/
private def compareGrid (digits : Nat) (unit : Int) (numerator denominator : Nat) : Ordering :=
  if 0 ≤ unit then compare (digits * Nat.pow 10 unit.toNat * denominator) numerator
  else compare (digits * denominator) (numerator * Nat.pow 10 (-unit).toNat)

/-- The interval of numbers that round to a float, as three fractions over one denominator. -/
structure RoundingInterval where
  low : Nat
  middle : Nat
  high : Nat
  denominator : Nat
  closed : Bool

def RoundingInterval.of (value : Binary) : RoundingInterval :=
  let (numerator, denominator) := value.magnitude
  let unit := numerator / max value.mantissa 1
  { low := if value.isPowerBoundary then 4 * numerator - unit else 4 * numerator - 2 * unit
    middle := 4 * numerator
    high := 4 * numerator + 2 * unit
    denominator := 4 * denominator
    closed := value.mantissa % 2 = 0 }

namespace RoundingInterval

/-- The grid point lies in the interval. -/
def holds (interval : RoundingInterval) (digits : Nat) (unit : Int) : Bool :=
  let left := compareGrid digits unit interval.low interval.denominator
  let right := compareGrid digits unit interval.high interval.denominator
  (left == .gt || interval.closed && left == .eq) &&
    (right == .lt || interval.closed && right == .eq)

/-- How many grid points of size `10 ^ unit` fit below the float. -/
def floor (interval : RoundingInterval) (unit : Int) : Nat :=
  if 0 ≤ unit then interval.middle / (interval.denominator * Nat.pow 10 unit.toNat)
  else interval.middle * Nat.pow 10 (-unit).toNat / interval.denominator

/-- Of two neighbouring grid points around the float the nearer one; of equally near ones the
even. -/
def nearer (interval : RoundingInterval) (lower : Nat) (unit : Int) : Nat :=
  match compareGrid (2 * lower + 1) unit (2 * interval.middle) interval.denominator with
  | .lt => lower + 1
  | .gt => lower
  | .eq => if lower % 2 = 0 then lower else lower + 1

/-- A point of the grid that reads back, if there is one. -/
def point? (interval : RoundingInterval) (unit : Int) : Option Nat :=
  let lower := interval.floor unit
  match interval.holds lower unit, interval.holds (lower + 1) unit with
  | true, true => some (interval.nearer lower unit)
  | true, false => some lower
  | false, true => some (lower + 1)
  | false, false => none

/-- Try finer and finer grids, starting with the one of size `10 ^ unit`. -/
def search (interval : RoundingInterval) (unit : Int) : Nat → Scientific
  | 0 => ⟨interval.floor unit, unit⟩
  | fuel + 1 =>
      match interval.point? unit with
      | some digits => Scientific.trim digits unit 400
      | none => interval.search (unit - 1) fuel

end RoundingInterval

/-- The power of ten of the leading digit of a positive fraction. -/
def leadingPower (numerator denominator : Nat) : Int :=
  if denominator ≤ numerator then (Nat.toDigits 10 (numerator / denominator)).length - 1
  else -(Nat.toDigits 10 ((denominator - 1) / numerator)).length

/-- The shortest decimal that reads back as the magnitude of `value`. -/
def shortest (value : Binary) : Scientific :=
  if value.mantissa = 0 then ⟨0, 0⟩
  else
    let (numerator, denominator) := value.magnitude
    (RoundingInterval.of value).search (leadingPower numerator denominator) 17

end AgentTeams.Decimal
