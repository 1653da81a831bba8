import AgentTeams.Proofs.Compiler.Answers

/-! Warnings: what the compiler says of a team that it retrofits. The warnings tell, in a fixed
order, of what the team itself did not have; a fresh build has none. -/
namespace AgentTeams

namespace Compilation

theorem warnings_bindTeam (options : Options) (compilation : Compilation) :
    (compilation.bindTeam options).warnings = compilation.warnings ++
      if compilation.team.teamModelBinding.isNone then [.missingTeamModel] else [] := by
  unfold bindTeam
  cases compilation.team.teamModelBinding with
  | none => rfl
  | some own => exact (List.append_nil _).symm

theorem warnings_ensureTermination (rule : TerminationRule) (compilation : Compilation) :
    (compilation.ensureTermination rule).warnings = compilation.warnings ++
      if compilation.team.terminationRule.isNone then [.missingTermination] else [] := by
  unfold ensureTermination
  cases compilation.team.terminationRule with
  | none => rfl
  | some own => exact (List.append_nil _).symm

end Compilation

namespace Topology

variable (topology : Topology) (options : Options) (team : Team)

/-- What is said of a team without a model that comes under a selector. -/
def selectorWarnings : List Warning :=
  if topology.driverKind = .centralizedSelection ∧ team.teamModelBinding.isNone then
    [.missingTeamModel] else []

theorem steer_warnings :
    (topology.steer options team).warnings = topology.selectorWarnings team := by
  unfold steer selectorWarnings
  rw [Team.withoutNotes_eq]
  cases topology.driverKind with
  | centralizedSelection =>
    rw [Compilation.warnings_bindTeam]
    simp [Compilation.start, Team.withoutHandoffs]
  | peerHandoff => simp [Compilation.start]
  | fixedOrder => simp [Compilation.start]
  | hierarchical => simp [Compilation.start]

/-- No driver gives models to agents, so those without one are the same as before. -/
theorem steer_unboundAgents :
    (topology.steer options team).team.unboundAgents = team.unboundAgents := by
  rw [steer_team]
  simp only [Team.unboundAgents, Team.ownAgents, List.map_map, List.filter_map]
  simp [Function.comp_def]

theorem convert_warnings : (topology.convert options team).warnings =
    topology.promptWarnings team ++ (topology.selectorWarnings team ++
      team.unboundAgents.map .missingAgentModel ++
      if team.terminationRule.isNone then [.missingTermination] else []) := by
  have rule : (topology.steer options team).team.terminationRule = team.terminationRule := by
    rw [steer_team]
  change topology.promptWarnings team ++ (topology.applyTo options team).warnings = _
  unfold applyTo
  rw [Compilation.warnings_ensureTermination, Compilation.team_bindAgents]
  simp only [Compilation.bindAgents, steer_warnings, steer_unboundAgents, rule]

end Topology

namespace Compiler

variable {compiler : Compiler} {id : String} {compilation : Compilation}

theorem buildFromTemplate_warnings
    (answered : compiler.buildFromTemplate id = .ok compilation) : compilation.warnings = [] := by
  obtain ⟨topology, _, _, rfl⟩ := buildFromTemplate_eq_ok_iff.mp answered
  rw [Topology.build_eq]

theorem buildWithAgents_warnings {agents : List Agent}
    (answered : compiler.buildWithAgents id agents = .ok compilation) :
    compilation.warnings = [] := by
  by_cases given : agents = []
  · subst agents
    exact buildFromTemplate_warnings answered
  · obtain ⟨topology, _, _, rfl⟩ := (buildWithAgents_eq_ok_iff given).mp answered
    rw [Topology.build_eq]

theorem compile_warnings_known {existing : Option Team}
    (answered : compiler.compile existing id = .ok compilation) (requested fallback : String) :
    .unknownTopology requested fallback ∉ compilation.warnings := by
  have fresh (built : compiler.buildFromTemplate id = .ok compilation) :
      .unknownTopology requested fallback ∉ compilation.warnings := by
    simp [buildFromTemplate_warnings built]
  cases existing with
  | none => exact fresh answered
  | some team =>
    by_cases given : team.agents = []
    · exact fresh (retrofit_empty given ▸ answered)
    · obtain ⟨topology, _, _, rfl⟩ := (retrofit_eq_ok_iff given).mp answered
      rw [Topology.convert_warnings]
      simp [Topology.promptWarnings, Topology.selectorWarnings]

end Compiler

end AgentTeams
