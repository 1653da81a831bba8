import AgentTeams.Inference
import AgentTeams.Proofs.Compiler.Agents

/-! Inference: which topology a team is taken for, against the compiler. Only the driver kind and
the texts of the agents are looked at, and no retrofit changes these texts. -/
namespace AgentTeams

theorem Agent.plays_congr {agent other : Agent} (name : agent.name = other.name)
    (description : agent.description = other.description) (part : Vocabulary) :
    agent.plays part = other.plays part := by
  simp [plays, words, name, description]

variable {agents others : List Agent} {team other : Team}

theorem isDebate_congr (same : agents.map Agent.plays = others.map Agent.plays) :
    isDebate agents = isDebate others := by
  have seen (agents : List Agent) : isDebate agents =
      (agents.map Agent.plays).zipIdx.any fun (adjudicator, i) =>
        adjudicator .adjudicator &&
          (agents.map Agent.plays).zipIdx.any fun (arguer, j) => i != j && arguer .arguer := by
    simp [isDebate, List.zipIdx_map, List.any_map, Function.comp_def]
  rw [seen, seen, same]

theorem isReflection_congr (same : agents.map Agent.plays = others.map Agent.plays) :
    isReflection agents = isReflection others := by
  have alike : List.Forall₂ (fun agent other => agent.plays = other.plays) agents others :=
    Traversal.map_eq_map_iff.mp same
  cases alike with
  | nil => rfl
  | cons first rest =>
    cases rest with
    | nil => rfl
    | cons second rest =>
      cases rest with
      | nil => simp [isReflection, first, second]
      | cons third rest => rfl

/-- Of each agent inference sees which parts it plays. -/
theorem Team.inferredTopology_congr (kind : other.driverKind = team.driverKind)
    (same : other.agents.map Agent.plays = team.agents.map Agent.plays) :
    other.inferredTopology = team.inferredTopology := by
  unfold inferredTopology
  rw [kind, isDebate_congr same, isReflection_congr same]

theorem Team.inferredTopology_eq_of_map {change : Agent → Agent}
    (kind : other.driverKind = team.driverKind) (agents : other.agents = team.agents.map change)
    (name : ∀ agent, (change agent).name = agent.name)
    (description : ∀ agent, (change agent).description = agent.description) :
    other.inferredTopology = team.inferredTopology := by
  refine Team.inferredTopology_congr kind ?_
  rw [agents, List.map_map]
  refine List.map_congr_left fun agent _ => ?_
  exact funext (Agent.plays_congr (name agent) (description agent))

/-- The agents that a team goes on with under a topology: its own or, if it has none, the example
agents of the topology. -/
def Topology.rosterFor (topology : Topology) (team : Team) : List Agent :=
  if team.agents.isEmpty then topology.exampleAgents.map Role.toAgent else team.agents

theorem Topology.rosterFor_given (topology : Topology) {team : Team} (given : team.agents ≠ []) :
    topology.rosterFor team = team.agents := by
  simp [rosterFor, given]

namespace Compiler

variable {compiler : Compiler} {final : Team} {id : String} {compilation : Compilation}

/-- A retrofit settles a team of the agents that are gone on with. -/
theorem retrofit_settles_roster (answered : compiler.retrofit team id = .ok compilation) :
    ∃ topology source, compiler.registry.find? id = some topology ∧ source.agents ≠ [] ∧
      source.agents = topology.rosterFor team ∧
      compilation.team = topology.settle compiler.options source := by
  by_cases given : team.agents = []
  · rw [retrofit_empty given] at answered
    obtain ⟨topology, found, roles, rfl⟩ := buildFromTemplate_eq_ok_iff.mp answered
    refine ⟨topology, topology.blank (topology.exampleAgents.map Role.toAgent), found, ?_, ?_,
      by rw [Topology.build_eq]⟩
    · simpa [Topology.blank] using roles
    · simp [Topology.blank, Topology.rosterFor, given]
  · obtain ⟨topology, found, _, rfl⟩ := (retrofit_eq_ok_iff given).mp answered
    exact ⟨topology, team, found, given, (topology.rosterFor_given given).symm,
      topology.convert_team compiler.options team⟩

theorem retrofit_changes_roster (answered : compiler.retrofit team id = .ok compilation) :
    ∃ topology change, compiler.registry.find? id = some topology ∧
      compilation.team.driverKind = topology.driverKind ∧ compilation.team.agents ≠ [] ∧
      compilation.team.agents = (topology.rosterFor team).map change ∧
      ∀ agent, Agent.KeptBy compiler.options [id] agent (change agent) := by
  obtain ⟨topology, source, found, given, roster, settled⟩ := retrofit_settles_roster answered
  obtain ⟨change, changed, kept⟩ := topology.settle_changes_agents compiler.options id source
  rw [← settled, roster] at changed
  have somebody := topology.settle_agents_ne_nil compiler.options given
  rw [← settled] at somebody
  exact ⟨topology, change, found, by rw [settled]; rfl, somebody, changed, kept⟩

/-- A run of retrofits ends under the driver of its last topology, with the agents that the first
one let the team go on with. -/
theorem retrofitAll_changes_roster {ids : List String} (steps : ids ≠ [])
    (walked : compiler.retrofitAll team ids = .ok final) :
    ∃ opening closing change, compiler.registry.find? (ids.head steps) = some opening ∧
      compiler.registry.find? (ids.getLast steps) = some closing ∧
      final.driverKind = closing.driverKind ∧
      final.agents = (opening.rosterFor team).map change ∧
      ∀ agent, Agent.KeptBy compiler.options ids agent (change agent) := by
  induction ids generalizing team with
  | nil => exact absurd rfl steps
  | cons id rest ih =>
    obtain ⟨compilation, answered, onward⟩ := Json.bind_eq_ok_iff.mp walked
    obtain ⟨opening, opened, first, kind, somebody, roster, kept⟩ :=
      retrofit_changes_roster answered
    cases rest with
    | nil =>
      cases onward
      exact ⟨opening, opening, opened, first, first, kind, roster, kept⟩
    | cons next rest =>
      -- From the second topology on there is somebody, and the run goes on with the same agents.
      obtain ⟨second, closing, closed, _, last, driven, changed, others⟩ := ih (by simp) onward
      rw [second.rosterFor_given somebody, roster, List.map_map] at changed
      refine ⟨opening, closing, closed ∘ opened, first, by simpa using last, driven, changed, ?_⟩
      intro agent
      exact (kept agent).append (others (opened agent))

/-- What is inferred after a run of retrofits was to be inferred at its start, had the team been
under the last driver then. -/
theorem retrofitAll_inferredTopology {ids : List String} (steps : ids ≠ [])
    (walked : compiler.retrofitAll team ids = .ok final) :
    ∃ opening closing, compiler.registry.find? (ids.head steps) = some opening ∧
      compiler.registry.find? (ids.getLast steps) = some closing ∧
      final.driverKind = closing.driverKind ∧
      final.inferredTopology = Team.inferredTopology { team with
        driverKind := closing.driverKind
        agents := opening.rosterFor team } := by
  obtain ⟨opening, closing, change, first, last, driven, changed, kept⟩ :=
    retrofitAll_changes_roster steps walked
  exact ⟨opening, closing, first, last, driven, Team.inferredTopology_eq_of_map driven changed
    (fun agent => (kept agent).name) fun agent => (kept agent).description⟩

end Compiler

/-- What can be inferred under each driver. -/
def inferable : List (DriverKind × String) :=
  [(.fixedOrder, TopologyId.sequential), (.fixedOrder, TopologyId.reflection),
    (.centralizedSelection, TopologyId.selector), (.centralizedSelection, TopologyId.debate),
    (.peerHandoff, TopologyId.handoff), (.hierarchical, TopologyId.hierarchical)]

theorem Team.mem_inferable (team : Team) :
    (team.driverKind, team.inferredTopology) ∈ inferable := by
  unfold inferredTopology
  cases team.driverKind with
  | fixedOrder => cases isReflection team.agents <;> simp [inferable]
  | centralizedSelection => cases isDebate team.agents <;> simp [inferable]
  | peerHandoff => simp [inferable]
  | hierarchical => simp [inferable]

namespace Compiler

/-- All that can be inferred comes with the library, under the driver from which it is inferred,
and is inferred of its own example agents too. -/
theorem bundled_find?_inferredTopology (team : Team) :
    ∃ topology, bundled.registry.find? team.inferredTopology = some topology ∧
      topology.driverKind = team.driverKind ∧
      (topology.blank (topology.exampleAgents.map Role.toAgent)).inferredTopology =
        team.inferredTopology := by
  have listed : ∀ entry ∈ inferable, (bundled.registry.find? entry.2).map (fun topology =>
      (topology.driverKind,
        (topology.blank (topology.exampleAgents.map Role.toAgent)).inferredTopology)) =
        some entry := by decide +kernel
  obtain ⟨topology, found, same⟩ := Option.map_eq_some_iff.mp (listed _ team.mem_inferable)
  obtain ⟨kind, inferred⟩ := Prod.mk.inj same
  exact ⟨topology, found, kind, inferred⟩

/-- A team is taken for a topology of the library that has its driver, so it can be retrofitted to
that one and stays under its driver. A run of retrofits changes what is inferred only as its last
driver does; it is what would be inferred of the team under that driver, with the example agents of
the first topology if it has nobody. So a team is still taken for the same once it is compiled for
what it is taken for, wherever that has the team's driver. -/
theorem inference_follows_driver :
    (∀ team : Team, ∃ topology, bundled.registry.find? team.inferredTopology = some topology ∧
      topology.driverKind = team.driverKind ∧
      ∀ options, team.agents ≠ [] → AcceptedNames team.agentNames → ∃ compilation,
        Compiler.retrofit { registry := bundled.registry, options } team team.inferredTopology =
          .ok compilation ∧
        compilation.team.driverKind = team.driverKind) ∧
    (∀ (compiler : Compiler) (team final : Team) (ids : List String) (steps : ids ≠ []),
      compiler.retrofitAll team ids = .ok final →
      ∃ opening closing, compiler.registry.find? (ids.head steps) = some opening ∧
        compiler.registry.find? (ids.getLast steps) = some closing ∧
        final.driverKind = closing.driverKind ∧
        final.inferredTopology = Team.inferredTopology { team with
          driverKind := closing.driverKind
          agents := opening.rosterFor team }) ∧
    ∀ (compiler : Compiler) (team : Team) (topology : Topology) (compilation : Compilation),
      compiler.registry.find? team.inferredTopology = some topology →
      topology.driverKind = team.driverKind →
      team.agents ≠ [] ∨ compiler.registry = bundled.registry →
      compiler.retrofit team team.inferredTopology = .ok compilation →
      compilation.team.inferredTopology = team.inferredTopology := by
  refine ⟨?_, fun _ _ _ _ => retrofitAll_inferredTopology, ?_⟩
  · intro team
    obtain ⟨topology, found, kind, _⟩ := bundled_find?_inferredTopology team
    refine ⟨topology, found, kind, ?_⟩
    intro options given accepted
    let compiler : Compiler := { registry := bundled.registry, options }
    have known : compiler.registry.find? team.inferredTopology = some topology := found
    obtain ⟨compilation, answered, settled⟩ := retrofit_eq_settle given accepted known
    exact ⟨compilation, answered, by rw [settled]; exact kind⟩
  · intro compiler team topology compilation found kind known answered
    obtain ⟨opening, closing, first, last, _, inferred⟩ := retrofitAll_inferredTopology
      (List.cons_ne_nil _ _) (retrofitAll_cons answered [])
    obtain rfl := Option.some.inj (found.symm.trans first)
    obtain rfl := Option.some.inj (found.symm.trans last)
    by_cases given : team.agents = []
    · obtain ⟨other, same, _, own⟩ := bundled_find?_inferredTopology team
      rw [← known.resolve_left (not_not_intro given), found] at same
      obtain rfl := Option.some.inj same
      have nobody : topology.rosterFor team = topology.exampleAgents.map Role.toAgent := by
        simp [Topology.rosterFor, given]
      rw [inferred, nobody]
      exact own
    · rw [inferred, kind, topology.rosterFor_given given]

/-- A pair that hands off to each other goes through a debate to a round table. There it is taken
for a reflection, and it still is after it has been made one. -/
theorem inference_follows_driver_of_reflection :
    let team : Team := {
      driverKind := .peerHandoff
      agents := [{ name := "generator" }, { name := "critic" }] }
    ∃ final compilation,
      bundled.retrofitAll team [TopologyId.debate, TopologyId.roundTable] = .ok final ∧
      final.inferredTopology = TopologyId.reflection ∧
      bundled.retrofit final TopologyId.reflection = .ok compilation ∧
      compilation.team.inferredTopology = TopologyId.reflection := by
  intro team
  have named : (bundled.retrofitAll team [TopologyId.debate, TopologyId.roundTable]).toOption.map
      (·.agentNames) = some ["generator", "critic"] := by decide +kernel
  have table : (bundled.registry.find? TopologyId.roundTable).map (·.driverKind) =
      some .fixedOrder := by decide +kernel
  obtain ⟨final, walked, names⟩ := exists_ok_of_view named
  obtain ⟨known, runs, again⟩ := inference_follows_driver
  obtain ⟨opening, closing, _, last, driven, inferred⟩ :=
    runs bundled team final _ (List.cons_ne_nil _ _) walked
  have seated : closing.driverKind = .fixedOrder := by
    simpa using (congrArg (Option.map (·.driverKind)) last).symm.trans table
  have reflection : final.inferredTopology = TopologyId.reflection := by
    rw [inferred, seated, opening.rosterFor_given (List.cons_ne_nil _ _)]
    decide +kernel
  obtain ⟨topology, found, kind, retrofitted⟩ := known final
  obtain ⟨compilation, answered, _⟩ := retrofitted {}
    (by rintro empty; simp [Team.agentNames, empty] at names)
    (by rw [names]; exact ⟨by decide, by decide⟩)
  have same := again bundled final topology compilation found kind (.inr rfl) answered
  exact ⟨final, compilation, walked, reflection, reflection ▸ answered, same.trans reflection⟩

/-- A registry may have a handoff mesh under the id of a sequence. A writer who is taken for a
sequence becomes one of the mesh, and is taken for that. A team of nobody that is made a debate gets
agents that argue, which it had not before. -/
theorem inferredTopology_lost :
    let swarm : TopologyDocument := {
      id := TopologyId.sequential
      name := "Swarm"
      description := ""
      driverKind := "peer_handoff"
      exampleAgents := [] }
    let writer : Team := { driverKind := .fixedOrder, agents := [{ name := "writer" }] }
    let nobody : Team := { driverKind := .centralizedSelection }
    (∃ registry compilation, Registry.ofDocuments [("swarm.json", swarm)] = .ok registry ∧
      Compiler.retrofit { registry } writer writer.inferredTopology = .ok compilation ∧
      writer.inferredTopology = TopologyId.sequential ∧
      compilation.team.inferredTopology = TopologyId.handoff) ∧
    ∃ final, bundled.retrofitAll nobody [TopologyId.debate] = .ok final ∧
      final.driverKind = nobody.driverKind ∧
      nobody.inferredTopology = TopologyId.selector ∧
      final.inferredTopology = TopologyId.debate := by
  intro swarm writer nobody
  refine ⟨?_, ?_⟩
  · have meshed : (Registry.ofDocuments [("swarm.json", swarm)]).toOption.map (fun registry =>
        (Compiler.retrofit { registry } writer writer.inferredTopology).toOption.map
          (·.team.inferredTopology)) = some (some TopologyId.handoff) := by decide +kernel
    obtain ⟨registry, loaded, switched⟩ := exists_ok_of_view meshed
    obtain ⟨compilation, answered, inferred⟩ := exists_ok_of_view switched
    exact ⟨registry, compilation, loaded, answered, by decide +kernel, inferred⟩
  · have argued : (bundled.retrofitAll nobody [TopologyId.debate]).toOption.map
        (fun final => (final.driverKind, final.inferredTopology)) =
          some (.centralizedSelection, TopologyId.debate) := by decide +kernel
    obtain ⟨final, walked, same⟩ := exists_ok_of_view argued
    obtain ⟨kind, inferred⟩ := Prod.mk.inj same
    exact ⟨final, walked, kind, by decide +kernel, inferred⟩

end Compiler

end AgentTeams
