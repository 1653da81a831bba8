import AgentTeams.Json.Numeral

/-!
What a JSON text comes to before anyone asks for its fields. Reading a text never fails: a fault
stands in the tree at the place where it was met. A decoder that walks the tree in the order of
the text thus meets the first fault first, whether it is one of the text or one of the fields, and
a value that nobody looks at may hold faults that do no harm.
-/
namespace AgentTeams.Json

/-- How an array or object ends: not at all, by its bracket, or as part of a value that was complete
before its fields were looked at. -/
inductive Closing where
  | missing
  | met
  | foreseen
deriving DecidableEq

inductive Tree where
  | null
  | bool (value : Bool)
  /-- A numeral beyond the floats has no number. -/
  | num (value : Option Number)
  /-- A string with an unpaired surrogate escape has no text. -/
  | str (value : Option String)
  | arr (items : List Tree) (closing : Closing)
  | obj (members : List (Option String × Tree)) (closing : Closing)
  /-- An array or object inside more than `Tree.depthLimit` others. -/
  | buried (inner : Tree)
  /-- No value can be read here. -/
  | broken

namespace Tree

instance : Inhabited Tree := ⟨.broken⟩

/-- An array or object may stand inside at most this many others. -/
def depthLimit : Nat := 126

mutual
/-- A stored value as a tree. -/
def ofJson : Json → Tree
  | .null => null
  | .bool value => bool value
  | .num value => num (some value)
  | .str value => str (some value)
  | .arr items => arr (ofItems items) .foreseen
  | .obj members => obj (ofMembers members) .foreseen

def ofItems : List Json → List Tree
  | [] => []
  | item :: rest => ofJson item :: ofItems rest

def ofMembers : List (String × Json) → List (Option String × Tree)
  | [] => []
  | (key, value) :: rest => (some key, ofJson value) :: ofMembers rest
end

mutual
/-- The canonical value of a tree without any fault. -/
def toJson? : Tree → Option Json
  | null => some .null
  | bool value => some (.bool value)
  | num value => value.map .num
  | str value => value.map .str
  | arr items closing => if closing = .missing then none else (toItems? items).map .arr
  | obj members closing => if closing = .missing then none else (toMembers? members []).map .obj
  | buried _ => none
  | broken => none

def toItems? : List Tree → Option (List Json)
  | [] => some []
  | item :: rest => do return (← toJson? item) :: (← toItems? rest)

def toMembers? : List (Option String × Tree) → List (String × Json) → Option (List (String × Json))
  | [], entered => some entered
  | (none, _) :: _, _ => none
  | (some key, value) :: rest, entered => do
      toMembers? rest (putByKey Prod.fst (key, ← toJson? value) entered)
end

mutual
/-- The text of this value is well formed. Its depth and its numbers' size are not looked at. -/
def wellFormed : Tree → Bool
  | arr items closing => closing != .missing && wellFormedItems items
  | obj members closing => closing != .missing && wellFormedMembers members
  | buried inner => wellFormed inner
  | broken => false
  | _ => true

def wellFormedItems : List Tree → Bool
  | [] => true
  | item :: rest => wellFormed item && wellFormedItems rest

def wellFormedMembers : List (Option String × Tree) → Bool
  | [] => true
  | (_, value) :: rest => wellFormed value && wellFormedMembers rest
end

mutual
/-- How many arrays and objects stand inside each other. -/
def height : Tree → Nat
  | arr items _ => heightItems items + 1
  | obj members _ => heightMembers members + 1
  | buried inner => height inner
  | _ => 0

def heightItems : List Tree → Nat
  | [] => 0
  | item :: rest => max (height item) (heightItems rest)

def heightMembers : List (Option String × Tree) → Nat
  | [] => 0
  | (_, value) :: rest => max (height value) (heightMembers rest)
end

end Tree

end AgentTeams.Json
