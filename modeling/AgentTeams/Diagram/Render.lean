import AgentTeams.Diagram.Layout
import AgentTeams.Inference

/-!
Diagrams of teams. A team is drawn as the topology it was compiled for while the driver kind is
still that one's, else as the topology it looks like.
-/
namespace AgentTeams

/-- The topology that a team was compiled for, if it still has that one's driver kind. -/
def Registry.compiledTopology? (registry : Registry) (team : Team) : Option Topology :=
  (team.topologyId.bind registry.find?).filter fun topology =>
    topology.driverKind = team.driverKind

/-- The look of a team: that of the topology it was compiled for, else of the one it looks like,
else of a sequence, else of its driver kind. -/
def Registry.visualFor (registry : Registry) (team : Team) : Visual :=
  let topology := ((registry.compiledTopology? team).or
    (registry.find? team.inferredTopology)).or (registry.find? TopologyId.sequential)
  match topology with
  | some topology => topology.visual
  | none => Visual.ofDriverKind team.driverKind

/-- A team that is not drawn as what it was compiled for has to be looked at. -/
def Registry.visualJournal (registry : Registry) (team : Team) : Journal :=
  match registry.compiledTopology? team with
  | some _ => []
  | none => team.inferenceJournal

def Registry.render (registry : Registry) (team : Team) (activity : Activity)
    (status : Run.Status) : Diagram :=
  Diagram.generate { agents := team.agents, activity, status, visual := registry.visualFor team }

end AgentTeams
