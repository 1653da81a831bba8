import AgentTeams.Options
import AgentTeams.Prompt
import AgentTeams.Validation

/-!
The compiler turns the choice of a topology into a team. A fresh build takes the example agents of
the topology or those it is given; a retrofit keeps the agents of a team and changes only what
belongs to the driver. What was missing is filled in, and a retrofit warns of it.
-/
namespace AgentTeams

inductive CompileError where
  | unknownTopology (id : String)
  | missingTemplate (id : String)
  | duplicateAgent (name : String)
  | reservedAgentName (name : String)
deriving DecidableEq

def CompileError.message : CompileError → String
  | unknownTopology id => "Unknown topology: " ++ id
  | missingTemplate id => "Topology '" ++ id ++ "' has no example agents to build from"
  | duplicateAgent name => "Agent's name should be unique, duplicate name: " ++ name
  | reservedAgentName name => "Agent's name is reserved for a diagram node: " ++ name

/-- A compiled team, and what had to be filled in. -/
structure Compilation where
  team : Team
  warnings : List Warning

namespace Compilation

/-- A compilation that has nothing to warn of yet. -/
def start (team : Team) : Compilation := ⟨team, []⟩

def warn (compilation : Compilation) (warning : Warning) : Compilation :=
  { compilation with warnings := compilation.warnings ++ [warning] }

/-- The model for the selector: the default, unless the team's own is to be preserved. -/
def bindTeam (options : Options) (compilation : Compilation) : Compilation :=
  let bound (model : ModelBinding) : Compilation :=
    { compilation with team := { compilation.team with teamModelBinding := some model } }
  match compilation.team.teamModelBinding with
  | some own => bound (if options.preserveModelBinding then own else options.defaultModel)
  | none => (bound options.defaultModel).warn .missingTeamModel

/-- The default model for agents without one, and the warnings about them. -/
def bindAgents (options : Options) (compilation : Compilation) : Compilation where
  team := { compilation.team with
    agents := compilation.team.agents.map fun agent =>
      { agent with modelBinding := some (agent.modelBinding.getD options.defaultModel) } }
  warnings := compilation.warnings ++ compilation.team.unboundAgents.map .missingAgentModel

/-- A rule for a team without one. -/
def ensureTermination (rule : TerminationRule) (compilation : Compilation) : Compilation :=
  match compilation.team.terminationRule with
  | some _ => compilation
  | none =>
      { compilation with
        team := { compilation.team with terminationRule := some rule } }.warn .missingTermination

end Compilation

namespace Team

/-- The notes of a team under peer handoff are taken off; no other team has any. -/
def withoutNotes (team : Team) : Team :=
  if team.driverKind = .peerHandoff then
    { team with agents := team.agents.map Agent.withoutNote }
  else team

def withoutSelection (team : Team) : Team :=
  { team with teamModelBinding := none, coordinationPrompt := none, allowRepeatedSpeaker := none }

def withoutHandoffs (team : Team) : Team :=
  { team with agents := team.agents.map fun agent => { agent with handoffTargets := none } }

/-- Every agent may hand off to every other, and is told so. -/
def withHandoffs (team : Team) : Team :=
  let graph := HandoffGraph.complete team.agentNames
  { team with agents := team.agents.map fun agent => agent.handingOff (graph.targets agent.name) }

end Team

namespace Topology

/-- Put the driver's settings right for a topology. -/
def steer (topology : Topology) (options : Options) (team : Team) : Compilation :=
  let team := { team.withoutNotes with
    driverKind := topology.driverKind, topologyId := some topology.id }
  match topology.driverKind with
  | .centralizedSelection =>
      let team := team.withoutHandoffs
      Compilation.bindTeam options <| Compilation.start { team with
        coordinationPrompt := some (topology.prompt team.agents)
        allowRepeatedSpeaker := some (topology.required.allowRepeatedSpeaker.getD false) }
  | .peerHandoff => Compilation.start team.withoutSelection.withHandoffs
  | .fixedOrder | .hierarchical => Compilation.start team.withoutSelection.withoutHandoffs

/-- Steer a team to a topology and fill in what is missing. -/
def applyTo (topology : Topology) (options : Options) (team : Team) : Compilation :=
  ((topology.steer options team).bindAgents options).ensureTermination
    (topology.required.termination.getD options.defaultTermination)

/-- A fresh team of these agents. Nothing was there that could be missed. -/
def build (topology : Topology) (options : Options) (agents : List Agent) : Compilation :=
  let team : Team := {
    driverKind := topology.driverKind
    agents
    label := some topology.name
    description := some topology.description }
  ⟨(topology.applyTo options team).team, []⟩

/-- The team was already under centralized selection but had no prompt. -/
def promptWarnings (topology : Topology) (team : Team) : List Warning :=
  if team.driverKind = .centralizedSelection ∧ topology.driverKind = .centralizedSelection ∧
      team.coordinationPrompt.isNone then [.missingCoordinationPrompt] else []

/-- A team that keeps its agents under this topology. -/
def convert (topology : Topology) (options : Options) (team : Team) : Compilation :=
  let result := topology.applyTo options team
  { result with warnings := topology.promptWarnings team ++ result.warnings }

end Topology

/-- The error for a name that an agent of a team cannot have. -/
def CompileError.ofNameFault : NameFault → CompileError
  | .reserved name => .reservedAgentName name
  | .repeated name => .duplicateAgent name

/-- The agents can stand together in a team. -/
def checkAgentNames (agents : List Agent) : Except CompileError Unit :=
  match nameFault? [] (agents.map (·.name)) with
  | some fault => .error (.ofNameFault fault)
  | none => .ok ()

/-- A registry and the options under which its topologies are compiled. -/
structure Compiler where
  registry : Registry
  options : Options := {}

namespace Compiler

def topology (compiler : Compiler) (id : String) : Except CompileError Topology :=
  match compiler.registry.find? id with
  | some topology => .ok topology
  | none => .error (.unknownTopology id)

/-- A fresh team of the example agents. -/
def buildFromTemplate (compiler : Compiler) (id : String) : Except CompileError Compilation := do
  let topology ← compiler.topology id
  if topology.exampleAgents.isEmpty then throw (.missingTemplate id)
  return topology.build compiler.options (topology.exampleAgents.map Role.toAgent)

/-- A fresh team of the given agents; without any, of the example agents. -/
def buildWithAgents (compiler : Compiler) (id : String) (agents : List Agent) :
    Except CompileError Compilation := do
  if agents.isEmpty then compiler.buildFromTemplate id
  else
    let topology ← compiler.topology id
    checkAgentNames agents
    return topology.build compiler.options agents

/-- Switch a team to another topology. A team without agents is built afresh. -/
def retrofit (compiler : Compiler) (existing : Team) (id : String) :
    Except CompileError Compilation := do
  if existing.agents.isEmpty then compiler.buildFromTemplate id
  else
    let topology ← compiler.topology id
    checkAgentNames existing.agents
    return topology.convert compiler.options existing

def compile (compiler : Compiler) (existing : Option Team) (id : String) :
    Except CompileError Compilation :=
  match existing with
  | some team => compiler.retrofit team id
  | none => compiler.buildFromTemplate id

end Compiler

end AgentTeams
