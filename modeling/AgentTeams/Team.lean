import AgentTeams.Agent
import AgentTeams.DriverKind
import AgentTeams.NodeId
import AgentTeams.TerminationRule

/-!
Teams: the configurations that are handed to a runtime.
-/
namespace AgentTeams

structure Team where
  driverKind : DriverKind
  /-- The topology this team was last compiled for. -/
  topologyId : Option String := none
  label : Option String := none
  description : Option String := none
  agents : List Agent := []
  teamModelBinding : Option ModelBinding := none
  coordinationPrompt : Option String := none
  allowRepeatedSpeaker : Option Bool := none
  terminationRule : Option TerminationRule := none

namespace Team

def agentNames (team : Team) : List String :=
  team.agents.map (·.name)

def agent? (team : Team) (name : String) : Option Agent :=
  team.agents.find? (fun agent => agent.name == name)

/-- The first name that was given before. -/
def repeatedName? (team : Team) : Option String :=
  firstRepeated? [] team.agentNames

/-- The first name that belongs to another node of the diagram. -/
def reservedName? (team : Team) : Option String :=
  firstReserved? team.agentNames

/-- The handoff targets of the first agent of this name. -/
def handoffTargets (team : Team) (name : String) : List String :=
  ((team.agent? name).bind (·.handoffTargets)).getD []

def toJson (team : Team) : Json :=
  .obj <|
    [("driverKind", .str team.driverKind.name)] ++
    Json.member? "topologyId" team.topologyId .str ++
    Json.member? "label" team.label .str ++
    Json.member? "description" team.description .str ++
    [("agents", .arr (team.agents.map Agent.toJson))] ++
    Json.member? "teamModelBinding" team.teamModelBinding ModelBinding.toJson ++
    Json.member? "coordinationPrompt" team.coordinationPrompt .str ++
    Json.member? "allowRepeatedSpeaker" team.allowRepeatedSpeaker .bool ++
    Json.member? "terminationRule" team.terminationRule TerminationRule.toJson

open Json in
def record : Record (DriverKind × Option String × Option String × Option String × List Agent ×
    Option ModelBinding × Option String × Option Bool × Option TerminationRule) :=
  .both (.required "driverKind" DriverKind.decoder) <|
  .both (.omissible "topologyId" Decoder.string) <|
  .both (.omissible "label" Decoder.string) <|
  .both (.omissible "description" Decoder.string) <|
  .both (.defaulted "agents" (Decoder.list Agent.decoder) []) <|
  .both (.omissible "teamModelBinding" ModelBinding.decoder) <|
  .both (.omissible "coordinationPrompt" Decoder.string) <|
  .both (.omissible "allowRepeatedSpeaker" Decoder.bool)
    (.omissible "terminationRule" TerminationRule.decoder)

def decoder : Json.Decoder Team := fun tree =>
  (record.decode tree).map
    fun (driverKind, topologyId, label, description, agents, teamModelBinding, coordinationPrompt,
        allowRepeatedSpeaker, terminationRule) =>
      { driverKind, topologyId, label, description, agents, teamModelBinding, coordinationPrompt,
        allowRepeatedSpeaker, terminationRule }

instance : Json.Document Team := ⟨toJson, decoder⟩

end Team

end AgentTeams
