import AgentTeams.Decimal.Binary

/-!
Numbers with a fixed count of decimals, rounded to the nearest; a tie goes to the even neighbour.
The sign of a negative number stays when its digits round to zero.
-/
namespace AgentTeams.Decimal

/-- The whole number nearest to `numerator / denominator`, a tie to the even one. -/
def roundHalfEven (numerator denominator : Nat) : Nat :=
  let lower := numerator / denominator
  match compare (2 * (numerator % denominator)) denominator with
  | .lt => lower
  | .gt => lower + 1
  | .eq => if lower % 2 = 0 then lower else lower + 1

/-- The decimal digits of a number, at least `width` of them. -/
def paddedDigits (width number : Nat) : String :=
  let digits := Nat.toDigits 10 number
  String.ofList (List.replicate (width - digits.length) '0' ++ digits)

/-- Write a fraction with `places` decimals. -/
def fixedFraction (places : Nat) (negative : Bool) (numerator denominator : Nat) : String :=
  let unit := Nat.pow 10 places
  let scaled := roundHalfEven (numerator * unit) denominator
  let sign := if negative then "-" else ""
  sign ++ paddedDigits 1 (scaled / unit) ++ "." ++ paddedDigits places (scaled % unit)

/-- Write a float with `places` decimals. -/
def fixedFloat (places : Nat) (value : Float) : String :=
  match Reading.ofFloat value with
  | .finite binary =>
      let (numerator, denominator) := binary.magnitude
      fixedFraction places binary.negative numerator denominator
  | .infinite negative => if negative then "-inf" else "inf"
  | .notANumber => "NaN"

/-- Write a rational with `places` decimals. -/
def fixedRat (places : Nat) (value : Rat) : String :=
  fixedFraction places (value < 0) value.num.natAbs value.den

end AgentTeams.Decimal
