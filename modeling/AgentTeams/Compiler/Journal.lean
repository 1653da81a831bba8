import AgentTeams.Compiler

/-!
What the compiler says about its work.
-/
namespace AgentTeams

private def buildEntry (topology : Topology) (agents : Nat) : Journal.Entry :=
  ⟨.debug, "| compiler | Build " ++ topology.id ++ " (" ++ topology.driverKind.name ++
    ") | agents: " ++ toString agents⟩

private def retrofitEntry (topology : Topology) (team : Team) : Journal.Entry :=
  ⟨.debug, "| compiler | Retrofit " ++ team.driverKind.name ++ " -> " ++ topology.id ++ " (" ++
    topology.driverKind.name ++ ") | agents: " ++ toString team.agents.length⟩

private def warningEntry (topology : Topology) (warning : Warning) : Journal.Entry :=
  ⟨.warn, "| compiler | " ++ topology.id ++ " | " ++ warning.message⟩

namespace Compiler

def templateJournal (compiler : Compiler) (id : String) : Journal :=
  match compiler.registry.find? id with
  | some topology =>
      if topology.exampleAgents.isEmpty then []
      else [buildEntry topology topology.exampleAgents.length]
  | none => []

def agentsJournal (compiler : Compiler) (id : String) (agents : List Agent) : Journal :=
  if agents.isEmpty then compiler.templateJournal id
  else
    match compiler.registry.find? id, checkAgentNames agents with
    | some topology, .ok _ => [buildEntry topology agents.length]
    | _, _ => []

def retrofitJournal (compiler : Compiler) (team : Team) (id : String) : Journal :=
  if team.agents.isEmpty then
    ⟨.debug, "| compiler | Retrofit of an empty team to '" ++ id ++ "', building from template"⟩ ::
      compiler.templateJournal id
  else
    match compiler.registry.find? id, checkAgentNames team.agents with
    | some topology, .ok _ =>
        retrofitEntry topology team ::
          (topology.convert compiler.options team).warnings.map (warningEntry topology)
    | _, _ => []

def journal (compiler : Compiler) (existing : Option Team) (id : String) : Journal :=
  match existing with
  | some team => compiler.retrofitJournal team id
  | none => compiler.templateJournal id

end Compiler

end AgentTeams
