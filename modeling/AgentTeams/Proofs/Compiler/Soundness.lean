import AgentTeams.Proofs.Compiler.Answers
import AgentTeams.Proofs.Validation

/-! Soundness of the compiler: validation has nothing to say of any team that it returns, by
whichever entry point the team was asked for. -/
namespace AgentTeams

namespace Topology

variable (topology : Topology) (options : Options) {team : Team}

/-- The targets of a settled agent are other agents, under whichever driver. -/
theorem seat_targets {names : List String} {agent : Agent} (own : agent.handoffTargets = none) :
    ∀ target ∈ (topology.seat names agent).handoffTargets.getD [],
      target ∈ names ∧ target ≠ agent.name := by
  intro target listed
  unfold seat at listed
  split at listed
  · have transfer : target ∈ (HandoffGraph.complete names).targets agent.name := listed
    exact (HandoffGraph.mem_targets_complete.mp transfer).2
  · simp [own] at listed

theorem mem_settle_agents {agent : Agent} : agent ∈ (topology.settle options team).agents ↔
    ∃ own ∈ team.ownAgents, topology.seat team.agentNames (own.bound options) = agent :=
  List.mem_map

theorem settle_sound (given : team.agents ≠ []) (accepted : AcceptedNames team.agentNames) :
    (topology.settle options team).Sound where
  agents := topology.settle_agents_ne_nil options given
  names := by simpa using accepted
  bound := by
    intro agent member
    obtain ⟨own, _, rfl⟩ := (topology.mem_settle_agents options).mp member
    rw [seat_modelBinding]
    rfl
  selector := by
    intro (selected : topology.driverKind = .centralizedSelection)
    simp [settle, selecting, selected]
  handoffs := by
    intro agent member
    obtain ⟨own, present, rfl⟩ := (topology.mem_settle_agents options).mp member
    have untargeted := Team.untargeted_of_ownAgents present
    rw [settle_agentNames, seat_name]
    exact topology.seat_targets untargeted

theorem settle_warnings : (topology.settle options team).validate.warnings = [] := by
  apply Team.warnings_validate_eq_nil_iff.mpr
  refine ⟨?_, rfl⟩
  intro (selected : topology.driverKind = .centralizedSelection)
  simp [settle, selecting, selected]

end Topology

/-- What a compiler can be asked for a topology. -/
inductive Request where
  | compile (existing : Option Team)
  | template
  | agents (agents : List Agent)
  | retrofit (existing : Team)

/-- The answer to a request. -/
def Compiler.answer (compiler : Compiler) (id : String) : Request → Except CompileError Compilation
  | .compile existing => compiler.compile existing id
  | .template => compiler.buildFromTemplate id
  | .agents agents => compiler.buildWithAgents id agents
  | .retrofit existing => compiler.retrofit existing id

theorem Compiler.answer_settles {compiler : Compiler} {id : String} {request : Request}
    (answered : compiler.answer id request = .ok compilation) :
    compiler.Settles id compilation := by
  cases request with
  | compile existing => exact compile_settles answered
  | template => exact buildFromTemplate_settles answered
  | agents agents => exact buildWithAgents_settles answered
  | retrofit existing => exact retrofit_settles answered

/-- Whatever a compiler is asked for, a team that it returns is valid, has neither errors nor
warnings, and belongs to the topology that was named. -/
theorem Compiler.answer_valid {compiler : Compiler} {id : String} {request : Request}
    {compilation : Compilation} (answered : compiler.answer id request = .ok compilation) :
    compilation.team.validate.valid = true ∧ compilation.team.validate.errors = [] ∧
      compilation.team.validate.warnings = [] ∧
      ∃ topology, compiler.registry.find? id = some topology ∧ topology.id = id ∧
        compilation.team.driverKind = topology.driverKind ∧
        compilation.team.topologyId = some topology.id := by
  obtain ⟨topology, source, found, given, accepted, settled⟩ := answer_settles answered
  have errors : compilation.team.validate.errors = [] := by
    rw [settled]
    exact Team.errors_validate_eq_nil_iff.mpr
      (topology.settle_sound compiler.options given accepted)
  have valid : compilation.team.validate.valid = true := by simp [Report.valid, errors]
  refine ⟨valid, errors, ?_, topology, found, Registry.id_of_find? found, ?_, ?_⟩
  · rw [settled]
    exact topology.settle_warnings compiler.options
  · rw [settled]
    rfl
  · rw [settled]
    rfl

/-- A team whose handoffs lead nowhere is valid after a retrofit. -/
theorem Compiler.answer_valid_of_dangling :
    let request := Request.retrofit {
      driverKind := .peerHandoff
      agents := [{ name := "planner", handoffTargets := some ["nobody"] }, { name := "writer" }] }
    ∃ compilation, bundled.answer TopologyId.selector request = .ok compilation ∧
      compilation.team.validate.valid = true := by
  intro request
  have succeeded : (bundled.answer TopologyId.selector request).isOk = true := by decide +kernel
  obtain ⟨compilation, answered⟩ := exists_ok_of_isOk succeeded
  exact ⟨compilation, answered, (answer_valid answered).1⟩

end AgentTeams
