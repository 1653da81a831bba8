import AgentTeams.Proofs.Compiler.Refusal

/-! Rebuilding: a fresh build over agents against a retrofit of a team of them. Both come to the
same for agents without targets, whatever driver the team has. A build takes the agents for agents
of its own driver, so that in those of a handoff team a note is recognized only where they are to
hand off again. -/
namespace AgentTeams

theorem Team.ownAgents_of_untargeted {team : Team}
    (untargeted : ∀ agent ∈ team.agents, agent.handoffTargets = none) :
    team.ownAgents = team.agents := by
  have same : ∀ agent ∈ team.agents, agent.own team.driverKind = id agent :=
    fun agent member => Agent.own_of_untargeted (untargeted agent member) team.driverKind
  rw [ownAgents, List.map_congr_left same, List.map_id]

/-- A build settles agents without targets as any team of them is settled, and gives this the name
and the description of the topology. -/
theorem Topology.settle_blank_of_untargeted (topology : Topology) (options : Options)
    {agents : List Agent} (untargeted : ∀ agent ∈ agents, agent.handoffTargets = none)
    (driverKind : DriverKind) : topology.settle options (topology.blank agents) =
      { topology.settle options { driverKind, agents } with
        label := some topology.name
        description := some topology.description } := by
  have built : (topology.blank agents).ownAgents = agents :=
    Team.ownAgents_of_untargeted untargeted
  have retrofitted : Team.ownAgents { driverKind, agents } = agents :=
    Team.ownAgents_of_untargeted untargeted
  simp only [settle, built, retrofitted]
  rfl

namespace Compiler

variable {compiler : Compiler} {id : String} {topology : Topology}

/-- The example agents of a topology pass the checks of agents that are given. -/
theorem buildFromTemplate_eq_buildWithAgents
    (found : compiler.registry.find? id = some topology) : compiler.buildFromTemplate id =
      compiler.buildWithAgents id (topology.exampleAgents.map Role.toAgent) := by
  by_cases roleless : topology.exampleAgents = []
  · rw [roleless]
    rfl
  · have given : topology.exampleAgents.map Role.toAgent ≠ [] := by simpa using roleless
    have built := buildFromTemplate_eq_ok_iff.mpr ⟨topology, found, roleless, rfl⟩
    have checked := (buildWithAgents_eq_ok_iff given).mpr
      ⟨topology, found, topology.exampleNames_accepted, rfl⟩
    rw [built, checked]

theorem answer_of_nobody {request : Request} (nobody : request.roster = []) :
    compiler.answer id request = compiler.buildFromTemplate id := by
  cases request with
  | compile existing =>
    cases existing with
    | none => rfl
    | some team => exact retrofit_empty nobody
  | template => rfl
  | agents given =>
    obtain rfl : given = [] := nobody
    rfl
  | retrofit existing => exact retrofit_empty nobody

/-- A build of agents without targets succeeds and makes of them what a retrofit makes of a new
team of them, under the name and the description of the topology; the driver of the new team makes
no difference. Whatever is asked for without agents is answered like a build of the example agents
of the topology. -/
theorem buildWithAgents_agrees_with_retrofit
    (found : compiler.registry.find? id = some topology) :
    (∀ agents, agents ≠ [] → AcceptedNames (agents.map (·.name)) →
      (∀ agent ∈ agents, agent.handoffTargets = none) →
      ∃ built, compiler.buildWithAgents id agents = .ok built ∧
        ∀ driverKind, ∃ switched, compiler.retrofit { driverKind, agents } id = .ok switched ∧
          built.team = { switched.team with
            label := some topology.name
            description := some topology.description }) ∧
    ∀ request : Request, request.roster = [] → compiler.answer id request =
      compiler.buildWithAgents id (topology.exampleAgents.map Role.toAgent) := by
  constructor
  · intro agents given accepted untargeted
    refine ⟨_, (buildWithAgents_eq_ok_iff given).mpr ⟨topology, found, accepted, rfl⟩, ?_⟩
    intro driverKind
    refine ⟨_, (retrofit_eq_ok_iff given).mpr ⟨topology, found, accepted, rfl⟩, ?_⟩
    rw [Topology.build_eq, Topology.convert_team]
    exact topology.settle_blank_of_untargeted compiler.options untargeted driverKind
  · intro request nobody
    rw [answer_of_nobody nobody, buildFromTemplate_eq_buildWithAgents found]

/-- What looks like a note is the planner's own text if the planner has no targets, and stays so
even in a team that hands off. -/
theorem buildWithAgents_agrees_with_retrofit_of_own_note :
    let agents : List Agent := [
      { name := "planner", instructions := HandoffNote.append ["writer"] "Plan." },
      { name := "writer", modelBinding := some ⟨"local", "small"⟩ }]
    ∃ topology built switched, bundled.registry.find? TopologyId.sequential = some topology ∧
      bundled.buildWithAgents TopologyId.sequential agents = .ok built ∧
      bundled.retrofit { driverKind := .peerHandoff, agents } TopologyId.sequential =
        .ok switched ∧
      built.team = { switched.team with
        label := some topology.name
        description := some topology.description } ∧
      bundled.answer TopologyId.sequential (.retrofit { driverKind := .hierarchical }) =
        bundled.buildWithAgents TopologyId.sequential
          (topology.exampleAgents.map Role.toAgent) := by
  intro agents
  have registered : TopologyId.sequential ∈ bundled.registry.ids := by decide +kernel
  have accepted : AcceptedNames (agents.map (·.name)) := ⟨by decide +kernel, by decide +kernel⟩
  have untargeted : ∀ agent ∈ agents, agent.handoffTargets = none := by simp [agents]
  obtain ⟨topology, found⟩ := Registry.find?_of_mem_ids registered
  obtain ⟨agreed, nobody⟩ := buildWithAgents_agrees_with_retrofit found
  obtain ⟨built, builds, retrofits⟩ := agreed agents (List.cons_ne_nil _ _) accepted untargeted
  obtain ⟨switched, answered, same⟩ := retrofits .peerHandoff
  exact ⟨topology, built, switched, found, builds, answered, same, nobody _ rfl⟩

end Compiler

/-- An agent with the note for all others of these names under its instructions. -/
def Agent.noted (names : List String) (agent : Agent) : Agent :=
  { agent with
    instructions := HandoffNote.append (names.filter (· ≠ agent.name)) agent.instructions }

theorem Agent.noted_eq_self_iff {names : List String} {agent : Agent} :
    agent.noted names = agent ↔ names.filter (· ≠ agent.name) = [] := by
  rw [← HandoffNote.append_eq_self_iff]
  constructor
  · intro same
    exact congrArg Agent.instructions same
  · intro same
    rw [noted, same]

theorem Agent.map_noted_eq_self_iff {agents : List Agent}
    (distinct : (agents.map (·.name)).Nodup) (given : agents ≠ []) :
    agents.map (Agent.noted (agents.map (·.name))) = agents ↔ agents.length = 1 := by
  have each : agents.map (noted (agents.map (·.name))) = agents ↔
      ∀ agent ∈ agents, (agents.map (·.name)).filter (· ≠ agent.name) = [] := by
    have same := @List.map_inj_left _ _ agents (noted (agents.map (·.name))) id
    simpa only [List.map_id, id, noted_eq_self_iff] using same
  rw [each]
  match agents, distinct, given with
  | [agent], _, _ => simp
  | first :: second :: rest, distinct, _ =>
    refine iff_of_false ?_ (by simp)
    intro alone
    have apart : second.name ≠ first.name := by
      rintro same
      simp [same] at distinct
    simpa [apart] using alone first (by simp)

namespace Topology

variable (topology : Topology) {options : Options} {team : Team}

/-- To hand off again, agents of a handoff team lose their notes in a build as in a retrofit. -/
theorem settle_blank_of_handoff (handoff : team.driverKind = .peerHandoff)
    (again : topology.driverKind = .peerHandoff) :
    (topology.settle options (topology.blank team.agents)).agents =
      (topology.settle options team).agents := by
  have own : (topology.blank team.agents).ownAgents = team.ownAgents := by
    simp [Team.ownAgents, blank, handoff, again]
  change (topology.blank team.agents).ownAgents.map _ = _
  rw [own]
  rfl

/-- What an agent got to hand off is not taken off by a driver that does not know of it, the
targets apart. -/
theorem own_seat_of_ne {names : List String} {agent : Agent} {kind : DriverKind}
    (handoff : topology.driverKind = .peerHandoff) (other : kind ≠ .peerHandoff)
    (distinct : names.Nodup) (member : agent.name ∈ names)
    (untargeted : agent.handoffTargets = none) :
    (topology.seat names agent).own kind = agent.noted names := by
  rw [seat, if_pos handoff, HandoffGraph.targets_complete distinct member]
  simp only [Agent.own, Agent.noteOff, if_neg other, Agent.handingOff, Agent.noted, ← untargeted]

/-- For another driver, agents that were settled to hand off keep their notes in a build. -/
theorem settle_blank_settle {first : Topology} {before : Options}
    (handoff : first.driverKind = .peerHandoff) (other : topology.driverKind ≠ .peerHandoff)
    (accepted : AcceptedNames team.agentNames) :
    (topology.settle options (topology.blank (first.settle before team).agents)).agents =
      (topology.settle options (first.settle before team)).agents.map
        (Agent.noted team.agentNames) := by
  have built : (topology.settle options (topology.blank (first.settle before team).agents)).agents =
      (first.settle before team).agents.map fun agent =>
        (agent.own topology.driverKind).bound options := by
    simp [settle, Team.ownAgents, blank, topology.seat_of_ne other]
  have switched : (topology.settle options (first.settle before team)).agents =
      (team.ownAgents.map (Agent.bound before)).map (Agent.bound options) := by
    change (first.settle before team).ownAgents.map _ = _
    rw [ownAgents_settle]
    simp [topology.seat_of_ne other]
  rw [built, switched, settle]
  simp only [List.map_map]
  apply List.map_congr_left
  intro own member
  have named := Team.name_mem_of_ownAgents member
  have untargeted := Team.untargeted_of_ownAgents member
  have noted : (first.seat team.agentNames (own.bound before)).own topology.driverKind =
      (own.bound before).noted team.agentNames :=
    first.own_seat_of_ne handoff other accepted.distinct named untargeted
  rw [Function.comp_apply, noted]
  rfl

end Topology

namespace Compiler

variable {earlier compiler : Compiler} {id next : String} {request : Request}
  {compilation : Compilation} {topology : Topology}

theorem buildWithAgents_and_retrofit (answered : earlier.answer id request = .ok compilation)
    (found : compiler.registry.find? next = some topology) :
    ∃ built switched, compiler.buildWithAgents next compilation.team.agents = .ok built ∧
      compiler.retrofit compilation.team next = .ok switched ∧
      built.team = topology.settle compiler.options (topology.blank compilation.team.agents) ∧
      switched.team = topology.settle compiler.options compilation.team := by
  obtain ⟨first, source, _, somebody, accepted, settled⟩ := answer_settles answered
  have given : compilation.team.agents ≠ [] := by
    rw [settled]
    exact first.settle_agents_ne_nil earlier.options somebody
  have names : AcceptedNames compilation.team.agentNames := by
    rw [settled, Topology.settle_agentNames]
    exact accepted
  refine ⟨_, _, (buildWithAgents_eq_ok_iff given).mpr ⟨topology, found, names, rfl⟩,
    (retrofit_eq_ok_iff given).mpr ⟨topology, found, names, rfl⟩, ?_, ?_⟩
  · rw [Topology.build_eq]
  · rw [Topology.convert_team]

/-- The agents of a compiled handoff team can be given to every topology by a build and by a
retrofit. Both make the same of them if they are to hand off again. Otherwise the agents of the
build are those of the retrofit with the note for all others still under their instructions, so
that only an agent that is alone is the same. -/
theorem buildWithAgents_of_handoff (answered : earlier.answer id request = .ok compilation)
    (handoff : compilation.team.driverKind = .peerHandoff)
    (found : compiler.registry.find? next = some topology) :
    ∃ built switched, compiler.buildWithAgents next compilation.team.agents = .ok built ∧
      compiler.retrofit compilation.team next = .ok switched ∧
      (topology.driverKind = .peerHandoff → built.team.agents = switched.team.agents) ∧
      (topology.driverKind ≠ .peerHandoff → built.team.agents =
        switched.team.agents.map (Agent.noted compilation.team.agentNames)) ∧
      (built.team.agents = switched.team.agents ↔
        topology.driverKind = .peerHandoff ∨ compilation.team.agents.length = 1) := by
  obtain ⟨built, switched, rebuilt, retrofitted, builtTeam, switchedTeam⟩ :=
    buildWithAgents_and_retrofit answered found
  obtain ⟨first, source, _, somebody, accepted, settled⟩ := answer_settles answered
  have again (same : topology.driverKind = .peerHandoff) :
      built.team.agents = switched.team.agents := by
    rw [builtTeam, switchedTeam]
    exact topology.settle_blank_of_handoff handoff same
  have noted (other : topology.driverKind ≠ .peerHandoff) : built.team.agents =
      switched.team.agents.map (Agent.noted compilation.team.agentNames) := by
    have kind : first.driverKind = .peerHandoff := by
      rw [← handoff, settled]
      rfl
    rw [builtTeam, switchedTeam, settled, Topology.settle_agentNames]
    exact topology.settle_blank_settle kind other accepted
  refine ⟨built, switched, rebuilt, retrofitted, again, noted, ?_⟩
  by_cases kind : topology.driverKind = .peerHandoff
  · exact iff_of_true (again kind) (.inl kind)
  · have names : switched.team.agents.map (·.name) = compilation.team.agentNames := by
      rw [switchedTeam]
      exact topology.settle_agentNames compiler.options compilation.team
    have distinct : compilation.team.agentNames.Nodup := by
      rw [settled, Topology.settle_agentNames]
      exact accepted.distinct
    have given : switched.team.agents ≠ [] := by
      rw [switchedTeam, settled]
      exact topology.settle_agents_ne_nil _ (first.settle_agents_ne_nil _ somebody)
    have size : switched.team.agents.length = compilation.team.agents.length := by
      simpa [Team.agentNames] using congrArg List.length names
    rw [noted kind, ← names, Agent.map_noted_eq_self_iff (names ▸ distinct) given, size,
      or_iff_right kind]

/-- A planner and a writer that handed off to each other are given to a sequence. -/
theorem buildWithAgents_of_handoff_pair :
    let team : Team := {
      driverKind := .fixedOrder
      agents := [{ name := "planner", instructions := "Plan." }, { name := "writer" }] }
    ∃ compilation built switched,
      bundled.answer TopologyId.handoff (.retrofit team) = .ok compilation ∧
      compilation.team.driverKind = .peerHandoff ∧
      bundled.buildWithAgents TopologyId.sequential compilation.team.agents = .ok built ∧
      bundled.retrofit compilation.team TopologyId.sequential = .ok switched ∧
      built.team.agents = switched.team.agents.map (Agent.noted ["planner", "writer"]) := by
  intro team
  have known : (bundled.answer TopologyId.handoff (.retrofit team)).toOption.map
      (fun compilation => (compilation.team.driverKind, compilation.team.agentNames)) =
        some (.peerHandoff, ["planner", "writer"]) := by decide +kernel
  have sequence : (bundled.registry.find? TopologyId.sequential).map (·.driverKind) =
      some .fixedOrder := by decide +kernel
  obtain ⟨compilation, answered, seen⟩ := exists_ok_of_view known
  obtain ⟨kind, names⟩ := Prod.mk.inj seen
  obtain ⟨topology, found, order⟩ := Option.map_eq_some_iff.mp sequence
  obtain ⟨built, switched, rebuilt, retrofitted, _, noted, _⟩ :=
    buildWithAgents_of_handoff answered kind found
  refine ⟨compilation, built, switched, answered, kind, rebuilt, retrofitted, ?_⟩
  rw [noted (by simp [order]), names]

/-- In a build they keep the notes that a retrofit takes off. -/
theorem buildWithAgents_keeps_notes :
    let team : Team := {
      driverKind := .fixedOrder
      agents := [{ name := "planner", instructions := "Plan." }, { name := "writer" }] }
    ∃ compilation built switched,
      bundled.retrofit team TopologyId.handoff = .ok compilation ∧
      compilation.team.driverKind = .peerHandoff ∧
      bundled.buildWithAgents TopologyId.sequential compilation.team.agents = .ok built ∧
      bundled.retrofit compilation.team TopologyId.sequential = .ok switched ∧
      built.team.agents.map (·.instructions) =
        ["Plan." ++ HandoffNote.separator ++ HandoffNote.text ["writer"],
          HandoffNote.text ["planner"]] ∧
      switched.team.agents.map (·.instructions) = ["Plan.", ""] := by
  intro team
  have known : (bundled.retrofit team TopologyId.handoff).toOption.map (fun compilation =>
      (compilation.team.driverKind,
        (bundled.buildWithAgents TopologyId.sequential compilation.team.agents).toOption.map
          (·.team.agents.map (·.instructions)),
        (bundled.retrofit compilation.team TopologyId.sequential).toOption.map
          (·.team.agents.map (·.instructions)))) =
      some (.peerHandoff,
        some ["Plan." ++ HandoffNote.separator ++ HandoffNote.text ["writer"],
          HandoffNote.text ["planner"]],
        some ["Plan.", ""]) := by decide +kernel
  obtain ⟨compilation, answered, seen⟩ := exists_ok_of_view known
  obtain ⟨kind, both⟩ := Prod.mk.inj seen
  obtain ⟨rebuilt, retrofitted⟩ := Prod.mk.inj both
  obtain ⟨built, builds, noted⟩ := exists_ok_of_view rebuilt
  obtain ⟨switched, retrofits, plain⟩ := exists_ok_of_view retrofitted
  exact ⟨compilation, built, switched, answered, kind, builds, retrofits, noted, plain⟩

end Compiler

end AgentTeams
