/-!
Texts of a given width, counted in characters.
-/
namespace AgentTeams.Text

inductive Alignment where
  | left
  | right
  | center
deriving DecidableEq

/-- How many characters to add before and after; of an odd number in the middle the odd one
follows. -/
def Alignment.margins (missing : Nat) : Alignment → Nat × Nat
  | left => (0, missing)
  | right => (missing, 0)
  | center => (missing / 2, missing - missing / 2)

/-- Fill a text up to a width, after cutting it to `precision` characters if that is given. -/
def pad (alignment : Alignment) (fill : Char) (width : Nat) (precision : Option Nat)
    (text : String) : String :=
  let characters := match precision with
    | some limit => text.toList.take limit
    | none => text.toList
  let (before, after) := alignment.margins (width - characters.length)
  String.ofList (List.replicate before fill ++ characters ++ List.replicate after fill)

end AgentTeams.Text
