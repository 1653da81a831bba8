/-!
Names. An agent is drawn as a node that carries its name, so no agent may have the name of another
node of a diagram, nor that of another agent.
-/
namespace AgentTeams

namespace NodeId

def user : String := "user"
def finish : String := "end"
def hub : String := "hub"
def distribute : String := "distribute"
def aggregate : String := "aggregate"

/-- The nodes that stand for no agent. -/
def reserved : List String := [user, finish, hub, distribute, aggregate]

end NodeId

/-- Why a name cannot be given to an agent. -/
inductive NameFault where
  | reserved (name : String)
  | repeated (name : String)
deriving DecidableEq

/-- The first name that faults, if `seen` are the names given before. -/
def nameFault? (seen : List String) : List String → Option NameFault
  | [] => none
  | name :: rest =>
      if name ∈ NodeId.reserved then some (.reserved name)
      else if name ∈ seen then some (.repeated name)
      else nameFault? (name :: seen) rest

/-- The first name that is reserved. -/
def firstReserved? (names : List String) : Option String :=
  names.find? (· ∈ NodeId.reserved)

/-- The first name that is also one of those before it, if `seen` stand in front. -/
def firstRepeated? (seen : List String) : List String → Option String
  | [] => none
  | name :: rest => if name ∈ seen then some name else firstRepeated? (name :: seen) rest

end AgentTeams
