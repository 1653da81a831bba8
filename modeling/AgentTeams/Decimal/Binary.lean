/-!
The exact value of a 64-bit float: a sign and a whole number of units, each unit a power of two.
-/
namespace AgentTeams.Decimal

/-- A finite float: `mantissa` times two to the power `exponent`, negated if `negative`. -/
structure Binary where
  negative : Bool
  mantissa : Nat
  exponent : Int
deriving DecidableEq

/-- What a float stands for. -/
inductive Reading where
  | finite (value : Binary)
  | infinite (negative : Bool)
  | notANumber
deriving DecidableEq

/-- Decode a word of one sign bit, eleven exponent bits and fifty-two fraction bits. -/
def Reading.ofBits (bits : UInt64) : Reading :=
  let word := bits.toNat
  let negative := word / Nat.pow 2 63 = 1
  let exponent : Nat := word / Nat.pow 2 52 % Nat.pow 2 11
  let fraction : Nat := word % Nat.pow 2 52
  if exponent = Nat.pow 2 11 - 1 then
    if fraction = 0 then .infinite negative else .notANumber
  else if exponent = 0 then .finite ⟨negative, fraction, -1074⟩
  else .finite ⟨negative, Nat.pow 2 52 + fraction, (exponent : Int) - 1075⟩

def Reading.ofFloat (value : Float) : Reading :=
  Reading.ofBits value.toBits

namespace Binary

/-- The magnitude as a fraction: numerator and positive denominator. -/
def magnitude (value : Binary) : Nat × Nat :=
  if 0 ≤ value.exponent then (value.mantissa * Nat.pow 2 value.exponent.toNat, 1)
  else (value.mantissa, Nat.pow 2 (-value.exponent).toNat)

/-- The float below in magnitude is only half a unit away: the mantissa has just carried over. -/
def isPowerBoundary (value : Binary) : Bool :=
  value.mantissa = Nat.pow 2 52 && value.exponent > -1074

end Binary

end AgentTeams.Decimal
