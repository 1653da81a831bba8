import AgentTeams.Json.Basic

/-!
JSON numerals: the grammar, and the number that a numeral denotes. The digits are gathered into a
significand of 64 bits; whole-number digits that no longer fit only raise the exponent and
fractional digits that no longer fit are dropped. The float is the significand scaled once by a
power of ten.
-/
namespace AgentTeams.Json

/-- A numeral in its parts. -/
structure Numeral where
  negative : Bool
  whole : List Char
  fraction : Option (List Char)
  exponent : Option (Bool × List Char)
deriving DecidableEq

namespace Numeral

private def spanDigits (text : List Char) : List Char × List Char :=
  text.span Char.isDigit

/-- The whole part: a zero alone, or digits that do not start with zero. -/
private def readWhole (text : List Char) : Option (List Char × List Char) :=
  match spanDigits text with
  | ([], _) => none
  | ('0' :: _ :: _, _) => none
  | (digits, rest) => some (digits, rest)

private def readFraction (text : List Char) : Option (Option (List Char) × List Char) :=
  match text with
  | '.' :: rest =>
      match spanDigits rest with
      | ([], _) => none
      | (digits, rest) => some (some digits, rest)
  | _ => some (none, text)

/-- The sign of an exponent: `true` is minus. -/
private def readSign : List Char → Bool × List Char
  | '+' :: rest => (false, rest)
  | '-' :: rest => (true, rest)
  | rest => (false, rest)

private def readExponent (text : List Char) : Option (Option (Bool × List Char) × List Char) :=
  match text with
  | c :: rest =>
      if c = 'e' ∨ c = 'E' then
        let (negative, rest) := readSign rest
        match spanDigits rest with
        | ([], _) => none
        | (digits, rest) => some (some (negative, digits), rest)
      else some (none, text)
  | [] => some (none, text)

/-- Read a numeral at the start of a text. -/
def read (text : List Char) : Option (Numeral × List Char) := do
  let (negative, text) := match text with
    | '-' :: rest => (true, rest)
    | _ => (false, text)
  let (whole, text) ← readWhole text
  let (fraction, text) ← readFraction text
  let (exponent, text) ← readExponent text
  return (⟨negative, whole, fraction, exponent⟩, text)

private def digitValue (c : Char) : Nat := c.toNat - '0'.toNat

/-- Append digits to a significand as long as it fits in 64 bits; the digits left over come
second. -/
def gather (significand : Nat) : List Char → Nat × List Char
  | [] => (significand, [])
  | c :: rest =>
      let next := significand * 10 + digitValue c
      if next < UInt64.size then gather next rest else (significand, c :: rest)

/-- The exponent's digits as a number, unless it is beyond 31 bits. -/
def exponentValue? (digits : List Char) : Option Nat :=
  digits.foldl (fun (value : Option Nat) c => do
    let next := (← value) * 10 + digitValue c
    if next < Nat.pow 2 31 then some next else none) (some 0)

private def powerOfTen (exponent : Nat) : Float :=
  Float.ofScientific 1 false exponent

/-- Scale a float down by steps of `10 ^ 308`, then by what is left of the exponent. -/
private def scaleDown (value : Float) (exponent : Nat) : Nat → Float
  | 0 => value
  | fuel + 1 =>
      if exponent ≤ 308 then value / powerOfTen exponent
      else if value == 0.0 then value
      else scaleDown (value / powerOfTen 308) (exponent - 308) fuel

/-- A significand times a power of ten, unless it is beyond the floats. -/
def scaled? (significand : Nat) (exponent : Int) : Option Float :=
  let value := (UInt64.ofNat significand).toFloat
  if exponent < 0 then some (scaleDown value exponent.natAbs 8)
  else if exponent ≤ 308 then
    let product := value * powerOfTen exponent.toNat
    if product.isInf then none else some product
  else if significand = 0 then some value
  else none

/-- A numeral without fraction and exponent that fits in 64 bits. A negative zero does not. -/
private def wholeNumber (negative : Bool) (significand : Nat) : Number :=
  if !negative then .integer significand
  else if 0 < significand ∧ significand ≤ Nat.pow 2 63 then .integer (-significand)
  else .real (-(UInt64.ofNat significand).toFloat)

private def signed (negative : Bool) (value : Float) : Number :=
  .real (if negative then -value else value)

/-- The number that a numeral denotes, unless it is beyond the floats. -/
def value? (numeral : Numeral) : Option Number :=
  let (significand, excess) := gather 0 numeral.whole
  if numeral.fraction = none ∧ numeral.exponent = none ∧ excess = [] then
    some (wholeNumber numeral.negative significand)
  else
    let fraction := numeral.fraction.getD []
    let (significand, dropped) := gather significand fraction
    let exponent : Int := excess.length - (fraction.length - dropped.length : Nat)
    match numeral.exponent with
    | none => (scaled? significand exponent).map (signed numeral.negative)
    | some (lowers, digits) =>
        match exponentValue? digits with
        | some power =>
            (scaled? significand (if lowers then exponent - power else exponent + power)).map
              (signed numeral.negative)
        | none => if significand ≠ 0 ∧ !lowers then none else some (signed numeral.negative 0.0)

end Numeral

end AgentTeams.Json
