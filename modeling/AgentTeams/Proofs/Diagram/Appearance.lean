import AgentTeams.Diagram.Render
import AgentTeams.Proofs.Compiler.Soundness

/-! Appearance: with which look a team is drawn. A compiled team has the look of its topology,
whoever its agents are; a team that belongs to no topology has the look of one it is taken for. -/
namespace AgentTeams

namespace Registry

variable {registry : Registry} {team : Team} {topology : Topology}

/-- A team belongs to a topology of the registry: it names it and has its driver kind. -/
structure Holds (registry : Registry) (team : Team) (topology : Topology) : Prop where
  named : team.topologyId = some topology.id
  found : registry.find? topology.id = some topology
  driven : topology.driverKind = team.driverKind

/-- Why a team belongs to no topology of the registry. -/
inductive Stray (registry : Registry) (team : Team) : Prop where
  | unnamed (unnamed : team.topologyId = none)
  | unregistered {id : String} (named : team.topologyId = some id) (unknown : id ∉ registry.ids)
  | driven {id : String} {topology : Topology} (named : team.topologyId = some id)
      (found : registry.find? id = some topology) (other : topology.driverKind ≠ team.driverKind)

/-- The look of what a team is taken for: the topology that it looks like, where that one is not
registered a sequence, and where there is no sequence either what its driver kind has. -/
structure TakenFor (registry : Registry) (team : Team) (visual : Visual) : Prop where
  inferred : ∀ topology, registry.find? team.inferredTopology = some topology →
    visual = topology.visual
  sequential : team.inferredTopology ∉ registry.ids → ∀ topology,
    registry.find? TopologyId.sequential = some topology → visual = topology.visual
  plain : team.inferredTopology ∉ registry.ids → TopologyId.sequential ∉ registry.ids →
    visual = Visual.ofDriverKind team.driverKind

theorem compiledTopology?_of_holds (holds : registry.Holds team topology) :
    registry.compiledTopology? team = some topology := by
  simp [compiledTopology?, holds.named, holds.found, holds.driven]

theorem compiledTopology?_of_stray (stray : registry.Stray team) :
    registry.compiledTopology? team = none := by
  cases stray with
  | unnamed unnamed => simp [compiledTopology?, unnamed]
  | unregistered named unknown =>
    simp [compiledTopology?, named, find?_eq_none_iff_not_mem.mpr unknown]
  | driven named found other => simp [compiledTopology?, named, found, other]

theorem visualFor_of_holds (holds : registry.Holds team topology) :
    registry.visualFor team = topology.visual := by
  simp [visualFor, compiledTopology?_of_holds holds]

theorem visualFor_of_stray (stray : registry.Stray team) :
    registry.TakenFor team (registry.visualFor team) := by
  have nothing := compiledTopology?_of_stray stray
  refine ⟨?_, ?_, ?_⟩
  · intro topology found
    simp [visualFor, nothing, found]
  · intro unknown topology found
    simp [visualFor, nothing, find?_eq_none_iff_not_mem.mpr unknown, found]
  · intro unknown missing
    simp [visualFor, nothing, find?_eq_none_iff_not_mem.mpr unknown,
      find?_eq_none_iff_not_mem.mpr missing]

end Registry

namespace Compiler

variable {compiler : Compiler} {id : String} {request : Request} {compilation : Compilation}

theorem answer_holds (answered : compiler.answer id request = .ok compilation) :
    ∃ topology, compiler.registry.find? id = some topology ∧
      compiler.registry.Holds compilation.team topology := by
  obtain ⟨topology, source, found, _, _, settled⟩ := answer_settles answered
  obtain rfl := Registry.id_of_find? found
  refine ⟨topology, found, ?_, found, ?_⟩
  · rw [settled]
    rfl
  · rw [settled]
    rfl

end Compiler

/-- A compiled team is drawn as its topology, and so is every team that has come from it and still
has its topology and its driver kind. A team that belongs to no topology is drawn as what it is
taken for. -/
theorem Registry.visualFor_follows_topology (registry : Registry) :
    (∀ options id request compilation,
      Compiler.answer { registry, options } id request = .ok compilation →
      ∃ topology, registry.find? id = some topology ∧
        ∀ team : Team, team.topologyId = compilation.team.topologyId →
          team.driverKind = compilation.team.driverKind →
          registry.visualFor team = topology.visual ∧
          ∀ activity status, registry.render team activity status =
            Diagram.generate { agents := team.agents, activity, status, visual := topology.visual }) ∧
    ∀ team, registry.Stray team → registry.TakenFor team (registry.visualFor team) := by
  refine ⟨?_, fun team => visualFor_of_stray⟩
  intro options id request compilation answered
  obtain ⟨topology, found, holds⟩ := Compiler.answer_holds answered
  refine ⟨topology, found, ?_⟩
  intro team sameTopology sameKind
  have look : registry.visualFor team = topology.visual :=
    visualFor_of_holds ⟨sameTopology.trans holds.named, holds.found, holds.driven.trans sameKind.symm⟩
  refine ⟨look, ?_⟩
  intro activity status
  rw [render, look]

/-- A producer and a reviewer who sit at a round table are drawn there, also when a third one has
come, and as a reflection only once they have left it. -/
theorem Registry.visualFor_follows_topology_of_reflection :
    let pair : List Agent := [{ name := "generator" }, { name := "critic" }]
    let stray : Team := { driverKind := .fixedOrder, agents := pair }
    ∃ compilation, Compiler.bundled.answer TopologyId.roundTable (.agents pair) = .ok compilation ∧
      compilation.team.inferredTopology = TopologyId.reflection ∧
      (Compiler.bundled.registry.visualFor { compilation.team with
        agents := pair ++ [{ name := "guest" }], label := none }).layout = .ring ∧
      (Compiler.bundled.registry.visualFor stray).icon = "refresh-cw" := by
  intro pair stray
  have succeeded : (Compiler.bundled.answer TopologyId.roundTable (.agents pair)).isOk = true := by
    decide +kernel
  have reviewed : ((Compiler.bundled.answer TopologyId.roundTable (.agents pair)).toOption.map
      (·.team.inferredTopology)) = some TopologyId.reflection := by decide +kernel
  have table : (Compiler.bundled.registry.find? TopologyId.roundTable).map (·.visual.layout) =
      some .ring := by decide +kernel
  have reflection : (Compiler.bundled.registry.find? stray.inferredTopology).map (·.visual.icon) =
      some "refresh-cw" := by decide +kernel
  obtain ⟨compilation, answered⟩ := exists_ok_of_isOk succeeded
  obtain ⟨drawn, taken⟩ := visualFor_follows_topology Compiler.bundled.registry
  obtain ⟨topology, found, followed⟩ := drawn _ _ _ compilation answered
  obtain ⟨other, known, icon⟩ := Option.map_eq_some_iff.mp reflection
  refine ⟨compilation, answered, ?_, ?_, ?_⟩
  · simpa [answered, Except.toOption] using reviewed
  · rw [(followed { compilation.team with agents := _, label := none } rfl rfl).1]
    simpa [found] using table
  · rw [(taken stray (.unnamed rfl)).inferred other known, icon]

end AgentTeams
