import AgentTeams.Proofs.Compiler.Answers

/-! Switching: what is left of the topologies a team went through, and of the driver it had, once
it is retrofitted to another. -/
namespace AgentTeams

/-- Two teams agree in all that agents and topologies decide. Their own models and their rules may
differ. -/
structure Team.SameArrangement (left right : Team) : Prop where
  driverKind : left.driverKind = right.driverKind
  topologyId : left.topologyId = right.topologyId
  label : left.label = right.label
  description : left.description = right.description
  agents : left.agents = right.agents
  coordinationPrompt : left.coordinationPrompt = right.coordinationPrompt
  allowRepeatedSpeaker : left.allowRepeatedSpeaker = right.allowRepeatedSpeaker

namespace Compiler

/-- Retrofit a team to one topology after the other. -/
def retrofitAll (compiler : Compiler) (team : Team) : List String → Except CompileError Team
  | [] => .ok team
  | id :: rest => do
      let compilation ← compiler.retrofit team id
      compiler.retrofitAll compilation.team rest

variable {compiler : Compiler} {team : Team}

theorem retrofit_eq_settle {id : String} {topology : Topology} (given : team.agents ≠ [])
    (accepted : AcceptedNames team.agentNames)
    (found : compiler.registry.find? id = some topology) :
    ∃ compilation, compiler.retrofit team id = .ok compilation ∧
      compilation.team = topology.settle compiler.options team := by
  refine ⟨topology.convert compiler.options team, ?_, topology.convert_team compiler.options team⟩
  exact (retrofit_eq_ok_iff given).mpr ⟨topology, found, accepted, rfl⟩

theorem retrofitAll_cons {id : String} (answered : compiler.retrofit team id = .ok compilation)
    (rest : List String) :
    compiler.retrofitAll team (id :: rest) = compiler.retrofitAll compilation.team rest := by
  simp [retrofitAll, answered, bind, Except.bind]

/-- A run of retrofits ends in the settlement of its start by the last topology. Only the rule is
that of the first, and the model may be one that was preserved on the way. -/
theorem retrofitAll_eq_settle {ids : List String} (steps : ids ≠ []) (given : team.agents ≠ [])
    (accepted : AcceptedNames team.agentNames)
    (registered : ∀ id ∈ ids, id ∈ compiler.registry.ids) :
    ∃ opening closing model,
      compiler.registry.find? (ids.head steps) = some opening ∧
      compiler.registry.find? (ids.getLast steps) = some closing ∧
      (compiler.options.preserveModelBinding = false →
        model = (closing.settle compiler.options team).teamModelBinding) ∧
      compiler.retrofitAll team ids = .ok { closing.settle compiler.options team with
        teamModelBinding := model
        terminationRule := some (team.terminationRule.getD (opening.rule compiler.options)) } := by
  induction ids generalizing team with
  | nil => exact absurd rfl steps
  | cons id rest ih =>
    obtain ⟨opening, found⟩ := Registry.find?_of_mem_ids (registered id (by simp))
    obtain ⟨compilation, answered, settled⟩ := retrofit_eq_settle given accepted found
    have onward := retrofitAll_cons answered rest
    rw [settled] at onward
    cases rest with
    | nil => exact ⟨opening, opening, _, found, found, fun _ => rfl, onward⟩
    | cons next rest =>
      -- The rest of the run starts at a settled team, and to settle that one again forgets
      -- everything of the first topology but its rule.
      obtain ⟨_, closing, model, _, last, unpreserved, walked⟩ := ih (by simp)
        (opening.settle_agents_ne_nil compiler.options given) (by simpa using accepted)
        (fun id member => registered id (by simp [member]))
      rw [Topology.settle_settle] at unpreserved walked
      refine ⟨opening, closing, model, found, by simpa using last, ?_, onward.trans walked⟩
      intro replaced
      rw [unpreserved replaced]
      simp [Topology.settle, Options.selectorModel, replaced]

/-- A team that goes through several topologies ends as if it had been switched to the last one at
once. Its rule is its own, else that of the first topology, and with a rule of its own it ends as
the very same team unless a model may be preserved on the way. -/
theorem retrofitAll_path_independent {ids : List String} (steps : ids ≠ [])
    (given : team.agents ≠ []) (accepted : AcceptedNames team.agentNames)
    (registered : ∀ id ∈ ids, id ∈ compiler.registry.ids) :
    ∃ opening walked direct,
      compiler.registry.find? (ids.head steps) = some opening ∧
      compiler.retrofitAll team ids = .ok walked ∧
      compiler.retrofit team (ids.getLast steps) = .ok direct ∧
      walked.SameArrangement direct.team ∧
      walked.terminationRule = some (team.terminationRule.getD
        (opening.required.termination.getD compiler.options.defaultTermination)) ∧
      (team.terminationRule.isSome → compiler.options.preserveModelBinding = false →
        walked = direct.team) := by
  obtain ⟨opening, closing, model, first, last, unpreserved, walked⟩ :=
    retrofitAll_eq_settle steps given accepted registered
  obtain ⟨direct, answered, settled⟩ := retrofit_eq_settle given accepted last
  refine ⟨opening, _, direct, first, walked, answered, ?_, rfl, ?_⟩
  · rw [settled]
    exact ⟨rfl, rfl, rfl, rfl, rfl, rfl, rfl⟩
  · intro ruled replaced
    obtain ⟨rule, own⟩ := Option.isSome_iff_exists.mp ruled
    rw [settled, unpreserved replaced]
    simp [Topology.settle, own]

/-- On its way to a selector a team under peer handoff may as well pass a pipeline. -/
theorem retrofitAll_path_independent_of_ruled :
    let team : Team := {
      driverKind := .peerHandoff
      agents := [{ name := "planner", handoffTargets := some ["nobody"] }, { name := "writer" }]
      terminationRule := some (.maxMessages 5) }
    ∃ direct, bundled.retrofit team TopologyId.selector = .ok direct ∧
      bundled.retrofitAll team [TopologyId.handoff, TopologyId.sequential, TopologyId.selector] =
        .ok direct.team := by
  intro team
  have registered : ∀ id ∈ [TopologyId.handoff, TopologyId.sequential, TopologyId.selector],
      id ∈ bundled.registry.ids := by decide +kernel
  have accepted : AcceptedNames team.agentNames := ⟨by decide +kernel, by decide +kernel⟩
  obtain ⟨_, walked, direct, _, through, answered, _, _, same⟩ :=
    retrofitAll_path_independent (List.cons_ne_nil _ _) (List.cons_ne_nil _ _) accepted registered
  exact ⟨direct, answered, same rfl rfl ▸ through⟩

end Compiler

/-- Two teams have the same label, description and rule and, their targets apart, the same agents.
Their drivers and all that was set for a driver may differ. -/
structure Team.SameApartFromDriver (left right : Team) : Prop where
  label : left.label = right.label
  description : left.description = right.description
  terminationRule : left.terminationRule = right.terminationRule
  agents : (left.agents.map fun agent => { agent with handoffTargets := none }) =
    right.agents.map fun agent => { agent with handoffTargets := none }

theorem Team.ownAgents_of_ne {team : Team} (other : team.driverKind ≠ .peerHandoff) :
    team.ownAgents = team.agents.map fun agent => { agent with handoffTargets := none } := by
  unfold ownAgents
  apply List.map_congr_left
  intro agent _
  simp [Agent.own, Agent.noteOff, other]

/-- Settling looks at nothing but the agents by themselves, the texts and the rule, unless a
model is to be preserved. -/
theorem Topology.settle_congr (topology : Topology) {options : Options} {left right : Team}
    (replaced : options.preserveModelBinding = false) (own : left.ownAgents = right.ownAgents)
    (label : left.label = right.label) (description : left.description = right.description)
    (rule : left.terminationRule = right.terminationRule) :
    topology.settle options left = topology.settle options right := by
  have names : left.agentNames = right.agentNames := by
    rw [← Team.ownAgents_names, own, Team.ownAgents_names]
  simp [settle, Options.selectorModel, replaced, own, label, description, rule, names]

theorem checkAgentNames_congr {left right : List Agent}
    (names : left.map (·.name) = right.map (·.name)) :
    checkAgentNames left = checkAgentNames right := by
  unfold checkAgentNames
  rw [names]

/-- Nothing of a driver gets through a retrofit: teams that are the same apart from their drivers
are refused with the same error or become the same team. -/
theorem Compiler.retrofit_forgets_driver {compiler : Compiler} {left right : Team} (id : String)
    (replaced : compiler.options.preserveModelBinding = false) (given : left.agents ≠ [])
    (leftKind : left.driverKind ≠ .peerHandoff) (rightKind : right.driverKind ≠ .peerHandoff)
    (same : left.SameApartFromDriver right) :
    (∃ error, compiler.retrofit left id = .error error ∧
      compiler.retrofit right id = .error error) ∨
    ∃ first second, compiler.retrofit left id = .ok first ∧
      compiler.retrofit right id = .ok second ∧ first.team = second.team := by
  have own : left.ownAgents = right.ownAgents := by
    rw [Team.ownAgents_of_ne leftKind, Team.ownAgents_of_ne rightKind, same.agents]
  have names : left.agentNames = right.agentNames := by
    rw [← Team.ownAgents_names, own, Team.ownAgents_names]
  have rightGiven : right.agents ≠ [] := by
    intro empty
    simp [Team.agentNames, empty] at names
    exact given names
  rw [retrofit_given given, retrofit_given rightGiven, checkAgentNames_congr names]
  cases compiler.topology id with
  | error error => exact .inl ⟨error, rfl, rfl⟩
  | ok topology =>
    cases checkAgentNames right.agents with
    | error error => exact .inl ⟨error, rfl, rfl⟩
    | ok accepted =>
      refine .inr ⟨_, _, rfl, rfl, ?_⟩
      rw [Topology.convert_team, Topology.convert_team]
      exact topology.settle_congr replaced own same.label same.description same.terminationRule

/-- What was left of a selector goes with the next retrofit. -/
theorem Compiler.retrofit_forgets_driver_of_selector :
    let left : Team := {
      driverKind := .fixedOrder
      agents := [{ name := "planner" }, { name := "writer", handoffTargets := some ["nobody"] }] }
    let right : Team := {
      driverKind := .centralizedSelection
      topologyId := some TopologyId.selector
      agents := [{ name := "planner", handoffTargets := some [] }, { name := "writer" }]
      teamModelBinding := some ⟨"local", "small"⟩
      coordinationPrompt := some "Take turns."
      allowRepeatedSpeaker := some true }
    ∃ first second, bundled.retrofit left TopologyId.handoff = .ok first ∧
      bundled.retrofit right TopologyId.handoff = .ok second ∧ first.team = second.team := by
  intro left right
  have succeeded : (bundled.retrofit left TopologyId.handoff).isOk = true := by decide +kernel
  have replaced : bundled.options.preserveModelBinding = false := rfl
  have same : left.SameApartFromDriver right := ⟨rfl, rfl, rfl, rfl⟩
  rcases retrofit_forgets_driver TopologyId.handoff replaced (List.cons_ne_nil _ _) (by decide)
    (by decide) same with ⟨error, refused, _⟩ | answered
  · simp [refused, Except.isOk, Except.toBool] at succeeded
  · exact answered

end AgentTeams
