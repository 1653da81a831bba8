import AgentTeams.Bundled
import AgentTeams.Team

/-!
Inference: which topology a team looks like. The driver kind decides first; only then the agents'
words are looked at.
-/
namespace AgentTeams

namespace Team

def inferredTopology (team : Team) : String :=
  match team.driverKind with
  | .peerHandoff => TopologyId.handoff
  | .centralizedSelection =>
      if isDebate team.agents then TopologyId.debate else TopologyId.selector
  | .fixedOrder =>
      if isReflection team.agents then TopologyId.reflection else TopologyId.sequential
  | .hierarchical => TopologyId.hierarchical

def inferenceJournal (team : Team) : Journal :=
  [⟨.debug, "| inference | " ++ team.driverKind.name ++ " with " ++ toString team.agents.length ++
    " agents -> " ++ team.inferredTopology⟩]

end Team

/-- Inference over a stored value that may not be a team. -/
def inferStored (value : Json) : String :=
  match Json.Document.ofStored Team value with
  | .ok team => team.inferredTopology
  | .error _ => TopologyId.custom

def inferStoredJournal (value : Json) : Journal :=
  match Json.Document.ofStored Team value with
  | .ok team => team.inferenceJournal
  | .error error =>
      [⟨.debug, "| inference | Unreadable team configuration: " ++ error.message⟩]

end AgentTeams
