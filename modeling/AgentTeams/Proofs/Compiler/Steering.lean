import AgentTeams.Proofs.Compiler.Soundness

/-! Steering: which settings a compiled team has. They are all those of the driver of its topology
and none of another driver; what had to be filled in is filled in, and what a team had before a
retrofit of its own stays. -/
namespace AgentTeams

/-- A team has what a selector needs: a model, the prompt about its agents and the word whether a
speaker may go on. -/
structure Team.Selecting (team : Team) (topology : Topology) : Prop where
  model : team.teamModelBinding.isSome
  prompt : team.coordinationPrompt = some (topology.prompt team.agents)
  repeated : team.allowRepeatedSpeaker = some (topology.required.allowRepeatedSpeaker.getD false)

/-- A team has nothing of a selector. -/
structure Team.Unselecting (team : Team) : Prop where
  model : team.teamModelBinding = none
  prompt : team.coordinationPrompt = none
  repeated : team.allowRepeatedSpeaker = none

/-- A team has the settings of the driver of a topology and nothing of another driver. -/
def Team.SteeredBy (team : Team) (topology : Topology) : Prop :=
  match topology.driverKind with
  | .centralizedSelection =>
      team.Selecting topology ∧ ∀ agent ∈ team.agents, agent.handoffTargets = none
  | .peerHandoff =>
      team.Unselecting ∧ ∀ agent ∈ team.agents,
        agent.handoffTargets = some (team.agentNames.filter (· ≠ agent.name))
  | .fixedOrder | .hierarchical =>
      team.Unselecting ∧ ∀ agent ∈ team.agents, agent.handoffTargets = none

/-- What a team had of its own before a retrofit is still there, and only the rest was filled in:
agents without a model have the default one, and a team without a rule has that of the topology or
else the default one. -/
structure Team.FilledFrom (after before : Team) (topology : Topology) (options : Options) :
    Prop where
  names : after.agentNames = before.agentNames
  models : after.agents.map (·.modelBinding) =
    before.agents.map fun agent => some (agent.modelBinding.getD options.defaultModel)
  rule : after.terminationRule = some (before.terminationRule.getD
    (topology.required.termination.getD options.defaultTermination))

namespace Topology

variable (topology : Topology) (options : Options) (team : Team)

theorem prompt_settle :
    topology.prompt (topology.settle options team).agents = topology.prompt team.ownAgents := by
  refine topology.prompt_map team.ownAgents
    (fun agent => topology.seat team.agentNames (agent.bound options)) ?_ ?_
  · intro agent
    rw [seat_name, Agent.bound_name]
  · intro agent
    rw [seat_description]
    rfl

theorem settle_untargeted (other : topology.driverKind ≠ .peerHandoff) :
    ∀ agent ∈ (topology.settle options team).agents, agent.handoffTargets = none := by
  intro agent member
  obtain ⟨own, present, rfl⟩ := (topology.mem_settle_agents options).mp member
  have untargeted := Team.untargeted_of_ownAgents present
  rw [topology.seat_of_ne other]
  exact untargeted

theorem settle_targeted (handoff : topology.driverKind = .peerHandoff)
    (accepted : AcceptedNames team.agentNames) :
    ∀ agent ∈ (topology.settle options team).agents, agent.handoffTargets =
      some ((topology.settle options team).agentNames.filter (· ≠ agent.name)) := by
  intro agent member
  obtain ⟨own, present, rfl⟩ := (topology.mem_settle_agents options).mp member
  have named := Team.name_mem_of_ownAgents present
  rw [settle_agentNames, seat_name, Agent.bound_name,
    ← HandoffGraph.targets_complete accepted.distinct named, seat, if_pos handoff]
  rfl

theorem settle_selecting (selected : topology.driverKind = .centralizedSelection) :
    (topology.settle options team).Selecting topology where
  model := by simp [settle, selecting, selected]
  prompt := by
    rw [prompt_settle]
    exact if_pos selected
  repeated := if_pos selected

theorem settle_unselecting (other : topology.driverKind ≠ .centralizedSelection) :
    (topology.settle options team).Unselecting where
  model := if_neg other
  prompt := if_neg other
  repeated := if_neg other

/-- Settling steers: one case for each driver. -/
theorem settle_steered (accepted : AcceptedNames team.agentNames) :
    (topology.settle options team).SteeredBy topology := by
  unfold Team.SteeredBy
  cases kind : topology.driverKind with
  | centralizedSelection =>
    exact ⟨topology.settle_selecting options team kind,
      topology.settle_untargeted options team (by simp [kind])⟩
  | peerHandoff =>
    exact ⟨topology.settle_unselecting options team (by simp [kind]),
      topology.settle_targeted options team kind accepted⟩
  | fixedOrder =>
    exact ⟨topology.settle_unselecting options team (by simp [kind]),
      topology.settle_untargeted options team (by simp [kind])⟩
  | hierarchical =>
    exact ⟨topology.settle_unselecting options team (by simp [kind]),
      topology.settle_untargeted options team (by simp [kind])⟩

theorem settle_filled : (topology.settle options team).FilledFrom team topology options where
  names := topology.settle_agentNames options team
  models := by
    simp only [settle, Team.ownAgents, List.map_map]
    apply List.map_congr_left
    intro agent _
    simp only [Function.comp_apply, seat_modelBinding, Agent.bound, Agent.own_modelBinding]
  rule := rfl

end Topology

/-- The team that a request wants to be retrofitted. -/
def Request.existing? : Request → Option Team
  | .compile existing => existing
  | .template => none
  | .agents _ => none
  | .retrofit existing => some existing

namespace Compiler

variable {compiler : Compiler} {id : String} {request : Request} {compilation : Compilation}

/-- Whichever way a retrofit is asked for, the answer is the same. -/
theorem answer_of_existing {existing : Team} (wanted : request.existing? = some existing) :
    compiler.answer id request = compiler.retrofit existing id := by
  cases request with
  | compile team =>
    obtain rfl : team = some existing := wanted
    rfl
  | template => simp [Request.existing?] at wanted
  | agents agents => simp [Request.existing?] at wanted
  | retrofit team =>
    obtain rfl : team = existing := Option.some.inj wanted
    rfl

theorem answer_eq_settle {existing : Team} {topology : Topology}
    (wanted : request.existing? = some existing)
    (given : existing.agents ≠ []) (answered : compiler.answer id request = .ok compilation)
    (found : compiler.registry.find? id = some topology) :
    compilation.team = topology.settle compiler.options existing := by
  rw [answer_of_existing wanted] at answered
  obtain ⟨other, known, _, rfl⟩ := (retrofit_eq_ok_iff given).mp answered
  have same : other = topology := Option.some.inj (known.symm.trans found)
  rw [same, Topology.convert_team]

/-- Whatever a compiler is asked for, a team that it returns has the settings of the driver of its
topology and of no other, a model for every agent and a rule. After a retrofit it still has what
the team had of its own. -/
theorem answer_steered (answered : compiler.answer id request = .ok compilation) :
    ∃ topology, compiler.registry.find? id = some topology ∧
      compilation.team.SteeredBy topology ∧
      (∀ agent ∈ compilation.team.agents, agent.modelBinding.isSome) ∧
      compilation.team.terminationRule.isSome ∧
      ∀ existing, request.existing? = some existing → existing.agents ≠ [] →
        compilation.team.FilledFrom existing topology compiler.options := by
  obtain ⟨topology, source, found, given, accepted, settled⟩ := answer_settles answered
  refine ⟨topology, found, ?_, ?_, ?_, ?_⟩
  · rw [settled]
    exact topology.settle_steered compiler.options source accepted
  · rw [settled]
    exact (topology.settle_sound compiler.options given accepted).bound
  · rw [settled]
    rfl
  · intro existing wanted somebody
    rw [answer_eq_settle wanted somebody answered found]
    exact topology.settle_filled compiler.options existing

/-- A pair that handed off to each other comes under a selector: the targets go, the model that
one of them had stays, and the rule is filled in. -/
theorem answer_steered_of_handoff :
    let existing : Team := {
      driverKind := .peerHandoff
      agents := [{ name := "planner", handoffTargets := some ["writer"] },
        { name := "writer", modelBinding := some ⟨"local", "small"⟩ }] }
    ∃ compilation, bundled.answer TopologyId.selector (.compile (some existing)) =
        .ok compilation ∧
      compilation.team.agents.map (·.modelBinding) =
        [some ModelBinding.default, some ⟨"local", "small"⟩] ∧
      (∀ agent ∈ compilation.team.agents, agent.handoffTargets = none) ∧
      compilation.team.coordinationPrompt.isSome ∧ compilation.team.terminationRule.isSome := by
  intro existing
  have succeeded :
      (bundled.answer TopologyId.selector (.compile (some existing))).isOk = true := by
    decide +kernel
  obtain ⟨compilation, answered⟩ := exists_ok_of_isOk succeeded
  obtain ⟨topology, found, steered, _, ruled, filled⟩ := answer_steered answered
  have selected : topology.driverKind = .centralizedSelection := by
    have known : (bundled.registry.find? TopologyId.selector).map (·.driverKind) =
        some .centralizedSelection := by decide +kernel
    simpa [found] using known
  simp only [Team.SteeredBy, selected] at steered
  refine ⟨compilation, answered, ?_, steered.2, ?_, ruled⟩
  · exact (filled existing rfl (List.cons_ne_nil _ _)).models
  · rw [steered.1.prompt]
    rfl

end Compiler

end AgentTeams
