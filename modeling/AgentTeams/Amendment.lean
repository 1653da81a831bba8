import AgentTeams.Team

/-!
Amendments: edits of a stored team document. An amended document has to decode again.
-/
namespace AgentTeams

inductive Amendment where
  /-- Set members of all agents of a name. -/
  | setAgent (name : String) (members : List (String × Json))
  | removeAgent (name : String)
  /-- Put an agent in front of the one at a place; at the end without a place. -/
  | insertAgent (agent : Json) (place : Option Nat)
  /-- Set members of the team. -/
  | patch (members : List (String × Json))

namespace Amendment

/-- Set a member; null takes it away. -/
def setMember (members : List (String × Json)) (member : String × Json) : List (String × Json) :=
  match member with
  | (key, .null) => members.filter fun other => other.1 ≠ key
  | (key, value) => putByKey Prod.fst (key, value) members

def setMembers (changes : List (String × Json)) : Json → Json
  | .obj members => .obj (changes.foldl setMember members)
  | value => value

def isNamed (name : String) (agent : Json) : Bool :=
  match agent.get? "name" with
  | some (.str found) => found == name
  | _ => false

/-- Change the list of agents of a document. -/
def mapAgents (change : List Json → List Json) : Json → Json
  | .obj members => .obj <| members.map fun
      | ("agents", .arr agents) => ("agents", .arr (change agents))
      | member => member
  | value => value

def apply (document : Json) : Amendment → Json
  | setAgent name changes =>
      mapAgents (·.map fun agent => if isNamed name agent then setMembers changes agent else agent)
        document
  | removeAgent name => mapAgents (·.filter fun agent => !isNamed name agent) document
  | insertAgent agent place =>
      mapAgents (fun agents =>
        let index := place.getD agents.length
        agents.take index ++ agent :: agents.drop index) document
  | patch changes => setMembers changes document

/-- The team that an amendment makes of a team. -/
def amend (amendment : Amendment) (team : Team) : Except Json.DecodeError Team :=
  Json.Document.ofStored Team (amendment.apply (Json.Document.stored team))

end Amendment

end AgentTeams
