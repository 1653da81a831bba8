import AgentTeams.Proofs.Compiler.Agents
import AgentTeams.Proofs.Compiler.Steering
import AgentTeams.Proofs.Compiler.Warnings

/-! Defaults: the warnings of a retrofit against what it fills in and against what validation says
of the team that it was given. -/
namespace AgentTeams

/-- The agent of which a warning says that it had no model. -/
def Warning.unbound? : Warning → Option String
  | .missingAgentModel agent => some agent
  | _ => none

/-- The agent of which a problem is that it has no model. -/
def Issue.unbound? : Issue → Option String
  | .missingAgentModel agent => some agent
  | _ => none

/-- A retrofit tells, in a fixed order, of all that a team lacked and of nothing else. As to agents
and to the rule, this is what validation says of the team, and what differs afterwards. -/
structure Compilation.TellsOf (compilation : Compilation) (before : Team) (topology : Topology) :
    Prop where
  listed : compilation.warnings =
    (if before.driverKind = .centralizedSelection ∧ topology.driverKind = .centralizedSelection ∧
      before.coordinationPrompt.isNone then [.missingCoordinationPrompt] else []) ++
    (if topology.driverKind = .centralizedSelection ∧ before.teamModelBinding.isNone then
      [.missingTeamModel] else []) ++
    ((before.agents.filter (·.modelBinding.isNone)).map fun agent =>
      .missingAgentModel agent.name) ++
    (if before.terminationRule.isNone then [.missingTermination] else [])
  agents : compilation.warnings.filterMap Warning.unbound? =
    before.validate.errors.filterMap Issue.unbound?
  termination : .missingTermination ∈ compilation.warnings ↔
    .missingTermination ∈ before.validate.warnings
  models : List.Forall₂ (fun old new => new.name = old.name ∧
      (new.modelBinding ≠ old.modelBinding ↔ .missingAgentModel old.name ∈ compilation.warnings))
    before.agents compilation.team.agents
  rule : compilation.team.terminationRule ≠ before.terminationRule ↔
    .missingTermination ∈ compilation.warnings

theorem getD_ne_iff {present : Option α} {default : α} :
    some (present.getD default) ≠ present ↔ present.isNone := by
  cases present <;> simp

namespace Team

variable {team : Team}

/-- Of all errors of validation, those about agents without a model name the agents in order. -/
theorem filterMap_errors_validate :
    team.validate.errors.filterMap Issue.unbound? = team.unboundAgents := by
  rw [errors_validate]
  simp [Diagnosis.issues, diagnosis, List.filterMap_append, Function.comp_def, Issue.unbound?,
    apply_ite (List.filterMap Issue.unbound?), List.filterMap_cons]

theorem missingTermination_mem_warnings_iff :
    .missingTermination ∈ team.validate.warnings ↔ team.terminationRule.isNone := by
  simp [validate]

theorem mem_unboundAgents_iff (distinct : team.agentNames.Nodup) {agent : Agent}
    (member : agent ∈ team.agents) :
    agent.name ∈ team.unboundAgents ↔ agent.modelBinding.isNone := by
  constructor
  · intro named
    obtain ⟨other, unbound, same⟩ := List.mem_map.mp named
    obtain ⟨present, missing⟩ := List.mem_filter.mp unbound
    rwa [← List.inj_on_of_nodup_map distinct present member same]
  · intro missing
    exact List.mem_map.mpr ⟨agent, List.mem_filter.mpr ⟨member, missing⟩, rfl⟩

end Team

namespace Topology

variable (topology : Topology) (options : Options) {team : Team}

theorem filterMap_warnings_convert :
    (topology.convert options team).warnings.filterMap Warning.unbound? = team.unboundAgents := by
  rw [convert_warnings]
  simp [promptWarnings, selectorWarnings, Function.comp_def, Warning.unbound?,
    apply_ite (List.filterMap Warning.unbound?), List.filterMap_cons]

theorem missingAgentModel_mem_convert_iff {name : String} :
    .missingAgentModel name ∈ (topology.convert options team).warnings ↔
      name ∈ team.unboundAgents := by
  rw [convert_warnings]
  simp [promptWarnings, selectorWarnings]

theorem missingTermination_mem_convert_iff :
    .missingTermination ∈ (topology.convert options team).warnings ↔
      team.terminationRule.isNone := by
  rw [convert_warnings]
  simp [promptWarnings, selectorWarnings]

theorem convert_tellsOf (accepted : AcceptedNames team.agentNames) :
    (topology.convert options team).TellsOf team topology where
  listed := by
    rw [convert_warnings]
    simp [promptWarnings, selectorWarnings, Team.unboundAgents]
  agents := by
    rw [filterMap_warnings_convert, Team.filterMap_errors_validate]
  termination := by
    rw [missingTermination_mem_convert_iff, Team.missingTermination_mem_warnings_iff]
  models := by
    obtain ⟨change, changed, kept⟩ := topology.settle_changes_agents options topology.id team
    rw [convert_team, changed, List.forall₂_map_right_iff, List.forall₂_same]
    intro agent member
    refine ⟨(kept agent).name, ?_⟩
    rw [(kept agent).modelBinding, if_neg (List.cons_ne_nil _ _), getD_ne_iff,
      missingAgentModel_mem_convert_iff, Team.mem_unboundAgents_iff accepted.distinct member]
  rule := by
    rw [missingTermination_mem_convert_iff, convert_team]
    exact getD_ne_iff

end Topology

namespace Compiler

variable {compiler : Compiler} {id : String} {request : Request} {compilation : Compilation}

theorem answer_warnings_of_nobody (answered : compiler.answer id request = .ok compilation)
    (nobody : ∀ existing, request.existing? = some existing → existing.agents = []) :
    compilation.warnings = [] := by
  have retrofitted (team : Team) (wanted : request.existing? = some team) :
      compilation.warnings = [] := by
    rw [answer_of_existing wanted, retrofit_empty (nobody team wanted)] at answered
    exact buildFromTemplate_warnings answered
  cases request with
  | compile existing =>
    cases existing with
    | none => exact buildFromTemplate_warnings answered
    | some team => exact retrofitted team rfl
  | template => exact buildFromTemplate_warnings answered
  | agents agents => exact buildWithAgents_warnings answered
  | retrofit team => exact retrofitted team rfl

/-- Whatever a compiler is asked for, its warnings are exactly about what a retrofit fills in: it
tells of this what validation tells of the team before, and a fresh build has nothing to tell. -/
theorem answer_reports_defaults (answered : compiler.answer id request = .ok compilation) :
    (∀ existing, request.existing? = some existing → existing.agents ≠ [] →
      ∃ topology, compiler.registry.find? id = some topology ∧
        compilation.TellsOf existing topology) ∧
    ((∀ existing, request.existing? = some existing → existing.agents = []) →
      compilation.warnings = []) := by
  refine ⟨?_, answer_warnings_of_nobody answered⟩
  intro existing wanted given
  rw [answer_of_existing wanted] at answered
  obtain ⟨topology, found, accepted, rfl⟩ := (retrofit_eq_ok_iff given).mp answered
  exact ⟨topology, found, topology.convert_tellsOf compiler.options accepted⟩

/-- A selector over two agents, one of them with a model, lacks all that there is to fill in. Only
the other agent gets a model. -/
theorem answer_reports_defaults_of_bare_selector :
    let existing : Team := {
      driverKind := .centralizedSelection
      agents := [{ name := "planner" },
        { name := "writer", modelBinding := some ⟨"local", "small"⟩ }] }
    ∃ compilation, bundled.answer TopologyId.selector (.retrofit existing) = .ok compilation ∧
      compilation.warnings = [.missingCoordinationPrompt, .missingTeamModel,
        .missingAgentModel "planner", .missingTermination] ∧
      List.Forall₂ (fun old new => new.modelBinding ≠ old.modelBinding ↔ old.name = "planner")
        existing.agents compilation.team.agents := by
  intro existing
  have succeeded : (bundled.answer TopologyId.selector (.retrofit existing)).isOk = true := by
    decide +kernel
  have selector : (bundled.registry.find? TopologyId.selector).map (·.driverKind) =
      some .centralizedSelection := by decide +kernel
  obtain ⟨compilation, answered⟩ := exists_ok_of_isOk succeeded
  obtain ⟨topology, found, tells⟩ :=
    (answer_reports_defaults answered).1 existing rfl (List.cons_ne_nil _ _)
  have selected : topology.driverKind = .centralizedSelection := by simpa [found] using selector
  have listed := tells.listed
  simp only [selected] at listed
  refine ⟨compilation, answered, listed, tells.models.imp ?_⟩
  intro old new told
  simpa [listed, existing] using told.2

end Compiler

end AgentTeams
