import AgentTeams.Json.Basic
import AgentTeams.Decimal.Shortest

/-!
The compact text of a JSON value: no blanks, members in their own order, the shortest digits of a
float.
-/
namespace AgentTeams.Json

/-- Where a float is written positionally: the decimal point stands after more than `lowest` digits
(counted from the leading one) and after at most `highest`. -/
structure FloatStyle where
  lowest : Int
  highest : Int

/-- Floats from 0.00001 up to, but not including, 1e16 are positional and always show a decimal
point; the exponent of any other carries its sign. -/
def floatStyle : FloatStyle := ⟨-5, 16⟩

private def zeros (count : Int) : String :=
  String.ofList (List.replicate count.toNat '0')

/-- Write the digits of a positive float. -/
def FloatStyle.write (style : FloatStyle) (decimal : Decimal.Scientific) : String :=
  let digits := Nat.toDigits 10 decimal.digits
  let point : Int := digits.length + decimal.exponent
  if 0 ≤ decimal.exponent ∧ point ≤ style.highest then
    String.ofList digits ++ zeros decimal.exponent ++ ".0"
  else if 0 < point ∧ point ≤ style.highest then
    String.ofList (digits.take point.toNat) ++ "." ++ String.ofList (digits.drop point.toNat)
  else if style.lowest < point ∧ point ≤ 0 then
    "0." ++ zeros (-point) ++ String.ofList digits
  else
    let fraction := if digits.length = 1 then "" else "." ++ String.ofList (digits.drop 1)
    let power := point - 1
    String.ofList (digits.take 1) ++ fraction ++ (if 0 ≤ power then "e+" else "e") ++ toString power

/-- The text of a float. Infinities and what is not a number have none in JSON; they become null. -/
def realText (value : Float) : String :=
  match Decimal.Reading.ofFloat value with
  | .finite binary =>
      (if binary.negative then "-" else "") ++
        (if binary.mantissa = 0 then "0.0" else floatStyle.write (Decimal.shortest binary))
  | .infinite _ => "null"
  | .notANumber => "null"

def Number.text : Number → String
  | .integer value => toString value
  | .real value => realText value

private def hexDigit (value : Nat) : Char :=
  (Nat.toDigits 16 value).headD '0'

/-- Escape what a string may not contain: the quote, the backslash and the control characters. -/
def escapeChar (c : Char) : List Char :=
  match c with
  | '"' => ['\\', '"']
  | '\\' => ['\\', '\\']
  | '\x08' => ['\\', 'b']
  | '\t' => ['\\', 't']
  | '\n' => ['\\', 'n']
  | '\x0c' => ['\\', 'f']
  | '\r' => ['\\', 'r']
  | c =>
      if c.toNat < 0x20 then ['\\', 'u', '0', '0', hexDigit (c.toNat / 16), hexDigit (c.toNat % 16)]
      else [c]

def quoted (text : String) : String :=
  "\"" ++ String.ofList (text.toList.flatMap escapeChar) ++ "\""

mutual
def compact : Json → String
  | null => "null"
  | bool value => if value then "true" else "false"
  | num value => value.text
  | str value => quoted value
  | arr items => "[" ++ ",".intercalate (compactItems items) ++ "]"
  | obj members => "\x7b" ++ ",".intercalate (compactMembers members) ++ "\x7d"

def compactItems : List Json → List String
  | [] => []
  | item :: rest => compact item :: compactItems rest

def compactMembers : List (String × Json) → List String
  | [] => []
  | (key, value) :: rest => (quoted key ++ ":" ++ compact value) :: compactMembers rest
end

end AgentTeams.Json
