import AgentTeams.Json.Basic
import AgentTeams.Text.Basic

/-!
JSON pointers: paths to parts of a value. The empty pointer leads to the value itself; every other
one is a sequence of tokens with a slash in front of each.
-/
namespace AgentTeams.Json

/-- A place in an array: digits, without needless zeros in front. -/
def pointerIndex? (token : String) : Option Nat :=
  match token.toList with
  | ['0'] => some 0
  | '0' :: _ => none
  | digits =>
      if digits.all Char.isDigit && !digits.isEmpty then
        some (digits.foldl (fun index digit => index * 10 + (digit.toNat - '0'.toNat)) 0)
      else none

/-- A key, of which slashes and tildes are written as escapes. -/
def pointerKey (token : String) : String :=
  Text.replace "~0" "~" (Text.replace "~1" "/" token)

/-- The member or item that a token leads to. -/
def child? (value : Json) (token : String) : Option Json :=
  match value with
  | obj members => members.lookup (pointerKey token)
  | arr items => (pointerIndex? (pointerKey token)).bind fun index => items[index]?
  | _ => none

/-- The part of a value that a pointer leads to. -/
def part? (value : Json) (pointer : String) : Option Json :=
  match pointer.splitOn "/" with
  | [""] => some value
  | "" :: tokens => tokens.foldlM child? value
  | _ => none

end AgentTeams.Json
