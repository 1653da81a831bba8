import AgentTeams.HandoffGraph

/-!
Validation: the structure of a team. What prompts and instructions say is not judged.
-/
namespace AgentTeams

/-- A problem that makes a team unusable. -/
inductive Issue where
  | noAgents
  | duplicateAgent (name : String)
  | reservedAgentName (name : String)
  | missingAgentModel (agent : String)
  | missingTeamModel
  | unknownHandoffTarget (agent target : String)
  | selfHandoff (agent : String)
deriving DecidableEq

namespace Issue

def message : Issue → String
  | noAgents => "Team has no agents"
  | duplicateAgent name => "Agent name '" ++ name ++ "' is used more than once"
  | reservedAgentName name => "Agent name '" ++ name ++ "' is reserved for a diagram node"
  | missingAgentModel agent => "Agent '" ++ agent ++ "' has no model binding"
  | missingTeamModel => "Centralized selection needs a team-level model binding"
  | unknownHandoffTarget agent target =>
      "Agent '" ++ agent ++ "' hands off to unknown agent '" ++ target ++ "'"
  | selfHandoff agent => "Agent '" ++ agent ++ "' hands off to itself"

def toJson : Issue → Json
  | noAgents => .obj [("kind", .str "noAgents")]
  | duplicateAgent name => .obj [("kind", .str "duplicateAgent"), ("name", .str name)]
  | reservedAgentName name => .obj [("kind", .str "reservedAgentName"), ("name", .str name)]
  | missingAgentModel agent => .obj [("kind", .str "missingAgentModel"), ("agent", .str agent)]
  | missingTeamModel => .obj [("kind", .str "missingTeamModel")]
  | unknownHandoffTarget agent target =>
      .obj [("kind", .str "unknownHandoffTarget"), ("agent", .str agent), ("target", .str target)]
  | selfHandoff agent => .obj [("kind", .str "selfHandoff"), ("agent", .str agent)]

end Issue

/-- Something that a compile filled in or would fill in. -/
inductive Warning where
  | missingTermination
  | missingCoordinationPrompt
  | missingAgentModel (agent : String)
  | missingTeamModel
  /-- The requested topology is unknown and another was used. -/
  | unknownTopology (requested fallback : String)
deriving DecidableEq

namespace Warning

def message : Warning → String
  | missingTermination => "No termination rule"
  | missingCoordinationPrompt => "Centralized selection without a coordination prompt"
  | missingAgentModel agent => "Agent '" ++ agent ++ "' had no model binding"
  | missingTeamModel => "Team had no model binding"
  | unknownTopology requested fallback =>
      "Unknown topology '" ++ requested ++ "', using '" ++ fallback ++ "'"

def toJson : Warning → Json
  | missingTermination => .obj [("kind", .str "missingTermination")]
  | missingCoordinationPrompt => .obj [("kind", .str "missingCoordinationPrompt")]
  | missingAgentModel agent => .obj [("kind", .str "missingAgentModel"), ("agent", .str agent)]
  | missingTeamModel => .obj [("kind", .str "missingTeamModel")]
  | unknownTopology requested fallback =>
      .obj [("kind", .str "unknownTopology"), ("requested", .str requested),
        ("fallback", .str fallback)]

end Warning

structure Report where
  errors : List Issue
  warnings : List Warning
deriving DecidableEq

def Report.valid (report : Report) : Bool :=
  report.errors.isEmpty

namespace Team

private def when (condition : Bool) (entries : List α) : List α :=
  if condition then entries else []

theorem when_eq_ite (condition : Bool) (entries : List α) :
    when condition entries = if condition then entries else [] := rfl

@[simp] theorem when_eq_nil_iff {condition : Bool} {entries : List α} :
    when condition entries = [] ↔ (condition = true → entries = []) := by
  cases condition <;> simp [when]

@[simp] theorem mem_when {condition : Bool} {entries : List α} {entry : α} :
    entry ∈ when condition entries ↔ condition = true ∧ entry ∈ entries := by
  cases condition <;> simp [when]

/-- The problems with names: the first reserved one, then the first repeated one. -/
def nameIssues (team : Team) : List Issue :=
  (team.reservedName?.map Issue.reservedAgentName).toList ++
    (team.repeatedName?.map Issue.duplicateAgent).toList

/-- The agents without a model. -/
def unboundAgents (team : Team) : List String :=
  (team.agents.filter (·.modelBinding.isNone)).map (·.name)

/-- The problems with handoffs: unknown targets, then agents that hand off to themselves. -/
def handoffIssues (team : Team) : List Issue :=
  ((HandoffGraph.dangling team).map fun (agent, target) => .unknownHandoffTarget agent target) ++
    (HandoffGraph.ofTeam team).selfLoops.map .selfHandoff

def validate (team : Team) : Report where
  errors :=
    when team.agents.isEmpty [.noAgents] ++
    team.nameIssues ++
    team.unboundAgents.map .missingAgentModel ++
    when (team.driverKind = .centralizedSelection && team.teamModelBinding.isNone)
      [.missingTeamModel] ++
    team.handoffIssues
  warnings :=
    when (team.driverKind = .centralizedSelection && team.coordinationPrompt.isNone)
      [.missingCoordinationPrompt] ++
    when team.terminationRule.isNone [.missingTermination]

end Team

end AgentTeams
