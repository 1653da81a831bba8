import AgentTeams.Sorted

/-!
JSON values. An object keeps its members in the order in which they are written; `canonical` is
the form that a value has once it has been stored: keys ascend, and of members with one key the
last stays.
-/
namespace AgentTeams

/-- A number is a whole one of at most 64 bits or a 64-bit float. -/
inductive Json.Number where
  | integer (value : Int)
  | real (value : Float)
deriving DecidableEq

inductive Json where
  | null
  | bool (value : Bool)
  | num (value : Json.Number)
  | str (value : String)
  | arr (items : List Json)
  | obj (members : List (String × Json))

namespace Json

instance : Inhabited Json := ⟨.null⟩

mutual
def canonical : Json → Json
  | null => null
  | bool value => bool value
  | num value => num value
  | str value => str value
  | arr items => arr (canonicalItems items)
  | obj members => obj (canonicalMembers members [])

def canonicalItems : List Json → List Json
  | [] => []
  | item :: rest => canonical item :: canonicalItems rest

/-- Enter the members one after the other into an ascending list. -/
def canonicalMembers : List (String × Json) → List (String × Json) → List (String × Json)
  | [], entered => entered
  | (key, value) :: rest, entered =>
      canonicalMembers rest (putByKey Prod.fst (key, canonical value) entered)
end

def ofNat (value : Nat) : Json :=
  .num (.integer value)

def strings (values : List String) : Json :=
  .arr (values.map .str)

def ofOption (value : Option α) (encode : α → Json) : Json :=
  match value with
  | none => .null
  | some present => encode present

/-- The member with this key, if the value is an object that has one. -/
def get? (value : Json) (key : String) : Option Json :=
  match value with
  | obj members => members.lookup key
  | _ => none

/-- A member of an object that is left out when there is no value. -/
def member? (key : String) (value : Option α) (encode : α → Json) : List (String × Json) :=
  match value with
  | none => []
  | some present => [(key, encode present)]

end Json

end AgentTeams
