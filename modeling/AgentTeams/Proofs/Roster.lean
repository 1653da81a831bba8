import AgentTeams.Proofs.Inference
import AgentTeams.Proofs.Pairs
import Mathlib.Data.Finset.Card
import Mathlib.Data.Fintype.Basic

/-! Rosters: which agents make a team a debate or a reflection. It does not matter in which order
they stand, and a debate stays one whoever joins it. -/
namespace AgentTeams

variable {agents others : List Agent}

/-- The places of the agents that play a part. -/
def playing (agents : List Agent) (part : Vocabulary) : Finset (Fin agents.length) :=
  Finset.univ.filter fun i => agents[i].plays part = true

theorem mem_playing {part : Vocabulary} {i : Fin agents.length} :
    i ∈ playing agents part ↔ agents[i].plays part = true := by
  simp [playing]

/-- Two of the agents make a debate, whatever stands before, between and behind them. -/
theorem isDebate_iff_pair : isDebate agents = true ↔
    ∃ adjudicator arguer, [adjudicator, arguer].Subperm agents ∧
      adjudicator.plays .adjudicator = true ∧ arguer.plays .arguer = true := by
  simp only [isDebate, List.any_eq_true, Prod.exists, List.mem_zipIdx_iff_getElem?,
    Bool.and_eq_true, bne_iff_ne, pair_subperm_iff]
  constructor
  · rintro ⟨adjudicator, i, here, judges, arguer, j, there, apart, argues⟩
    exact ⟨adjudicator, arguer, ⟨i, j, apart, here, there⟩, judges, argues⟩
  · rintro ⟨adjudicator, arguer, ⟨i, j, apart, here, there⟩, judges, argues⟩
    exact ⟨adjudicator, i, here, judges, arguer, j, there, apart, argues⟩

theorem isDebate_of_subperm (within : agents.Subperm others) (debate : isDebate agents = true) :
    isDebate others = true := by
  obtain ⟨adjudicator, arguer, pair, parts⟩ := isDebate_iff_pair.mp debate
  exact isDebate_iff_pair.mpr ⟨adjudicator, arguer, pair.trans within, parts⟩

theorem isDebate_perm (same : agents.Perm others) : isDebate agents = isDebate others := by
  apply Bool.eq_iff_iff.mpr
  exact ⟨isDebate_of_subperm same.subperm, isDebate_of_subperm same.symm.subperm⟩

theorem isDebate_iff_places : isDebate agents = true ↔
    ∃ i ∈ playing agents .adjudicator, ∃ j ∈ playing agents .arguer, i ≠ j := by
  simp only [isDebate_iff_pair, pair_subperm_iff, mem_playing]
  constructor
  · rintro ⟨adjudicator, arguer, ⟨i, j, apart, here, there⟩, judges, argues⟩
    obtain ⟨inside, rfl⟩ := List.getElem?_eq_some_iff.mp here
    obtain ⟨insideToo, rfl⟩ := List.getElem?_eq_some_iff.mp there
    exact ⟨⟨i, inside⟩, judges, ⟨j, insideToo⟩, argues, by simpa using apart⟩
  · rintro ⟨i, judges, j, argues, apart⟩
    refine ⟨agents[i], agents[j], ⟨i, j, Fin.val_ne_of_ne apart, ?_, ?_⟩, judges, argues⟩
    · exact List.getElem?_eq_getElem i.isLt
    · exact List.getElem?_eq_getElem j.isLt

/-- A debate has somebody who adjudicates and somebody who argues, and these are at least two. -/
theorem isDebate_iff_card : isDebate agents = true ↔
    (playing agents .adjudicator).Nonempty ∧ (playing agents .arguer).Nonempty ∧
      2 ≤ (playing agents .adjudicator ∪ playing agents .arguer).card := by
  rw [isDebate_iff_places]
  constructor
  · rintro ⟨i, judges, j, argues, apart⟩
    refine ⟨⟨i, judges⟩, ⟨j, argues⟩, Finset.one_lt_card.mpr ?_⟩
    exact ⟨i, Finset.mem_union_left _ judges, j, Finset.mem_union_right _ argues, apart⟩
  · rintro ⟨⟨i, judges⟩, ⟨j, argues⟩, several⟩
    by_cases apart : i = j
    · -- One agent can play both parts, but then somebody else plays one of them.
      subst apart
      obtain ⟨k, either, other⟩ := Finset.exists_mem_ne several i
      rcases Finset.mem_union.mp either with judgesToo | arguesToo
      · exact ⟨k, judgesToo, i, argues, other⟩
      · exact ⟨i, judges, k, arguesToo, other.symm⟩
    · exact ⟨i, judges, j, argues, apart⟩

theorem isReflection_iff : isReflection agents = true ↔
    ∃ producer reviewer, agents.Perm [producer, reviewer] ∧
      producer.plays .producer = true ∧ reviewer.plays .reviewer = true := by
  constructor
  · intro reflection
    match agents, reflection with
    | [first, second], reflection =>
      simp only [isReflection, Bool.or_eq_true, Bool.and_eq_true] at reflection
      rcases reflection with parts | parts
      · exact ⟨first, second, .refl _, parts⟩
      · exact ⟨second, first, .swap second first [], parts⟩
  · rintro ⟨producer, reviewer, same, parts⟩
    rcases List.perm_pair.mp same with rfl | rfl
    · simp [isReflection, parts]
    · simp [isReflection, parts]

theorem isReflection_perm (same : agents.Perm others) :
    isReflection agents = isReflection others := by
  apply Bool.eq_iff_iff.mpr
  rw [isReflection_iff, isReflection_iff]
  constructor
  · rintro ⟨producer, reviewer, pair, parts⟩
    exact ⟨producer, reviewer, same.symm.trans pair, parts⟩
  · rintro ⟨producer, reviewer, pair, parts⟩
    exact ⟨producer, reviewer, same.trans pair, parts⟩

theorem Team.inferredTopology_perm {team : Team} (same : agents.Perm team.agents) :
    Team.inferredTopology { team with agents } = team.inferredTopology := by
  unfold inferredTopology
  rw [isDebate_perm same, isReflection_perm same]

theorem Team.inferredTopology_eq_debate_iff {team : Team} :
    team.inferredTopology = TopologyId.debate ↔
      team.driverKind = .centralizedSelection ∧ isDebate team.agents = true := by
  unfold inferredTopology
  cases team.driverKind with
  | centralizedSelection =>
    cases isDebate team.agents with
    | true => simp
    | false => simp [TopologyId.debate, TopologyId.selector]
  | fixedOrder =>
    cases isReflection team.agents with
    | true => simp [TopologyId.debate, TopologyId.reflection]
    | false => simp [TopologyId.debate, TopologyId.sequential]
  | peerHandoff => simp [TopologyId.debate, TopologyId.handoff]
  | hierarchical => simp [TopologyId.debate, TopologyId.hierarchical]

/-- A topology is a debate if a team of its example agents is taken for one. -/
theorem Topology.isDebate_iff {topology : Topology} {team : Team}
    (kind : team.driverKind = topology.driverKind)
    (agents : team.agents = topology.exampleAgents.map Role.toAgent) :
    topology.isDebate = true ↔ team.inferredTopology = TopologyId.debate := by
  rw [Team.inferredTopology_eq_debate_iff, kind, agents, isDebate, Bool.and_eq_true,
    decide_eq_true_eq]

/-- A topology that has example agents can be built, and what is built is taken for a debate if the
topology is one. -/
theorem Compiler.buildFromTemplate_debate {compiler : Compiler} {id : String} {topology : Topology}
    (found : compiler.registry.find? id = some topology) (roles : topology.exampleAgents ≠ []) :
    ∃ compilation, compiler.buildFromTemplate id = .ok compilation ∧
      (topology.isDebate = true ↔ compilation.team.inferredTopology = TopologyId.debate) := by
  let source := topology.blank (topology.exampleAgents.map Role.toAgent)
  have answered := buildFromTemplate_eq_ok_iff.mpr ⟨topology, found, roles, rfl⟩
  refine ⟨_, answered, ?_⟩
  rw [topology.build_eq]
  obtain ⟨change, changed, kept⟩ := topology.settle_changes_agents compiler.options id source
  have same : (topology.settle compiler.options source).inferredTopology =
      source.inferredTopology :=
    Team.inferredTopology_eq_of_map rfl changed (fun agent => (kept agent).name)
      fun agent => (kept agent).description
  rw [same]
  exact topology.isDebate_iff rfl rfl

/-- What is inferred does not depend on the order of the agents. A team is a debate exactly if it
has an adjudicator and an arguer and more than one agent that is either, so it stays one whoever
joins; and a topology says that it is a debate exactly if this is inferred from its example agents,
as they are and as they are built. -/
theorem inference_ignores_order :
    (∀ (team : Team) (agents : List Agent), agents.Perm team.agents →
      Team.inferredTopology { team with agents } = team.inferredTopology) ∧
    (∀ agents, isDebate agents = true ↔
      (playing agents .adjudicator).Nonempty ∧ (playing agents .arguer).Nonempty ∧
        2 ≤ (playing agents .adjudicator ∪ playing agents .arguer).card) ∧
    (∀ agents more : List Agent, agents.Sublist more → isDebate agents = true →
      isDebate more = true) ∧
    (∀ (topology : Topology) (team : Team), team.driverKind = topology.driverKind →
      team.agents = topology.exampleAgents.map Role.toAgent →
      (topology.isDebate = true ↔ team.inferredTopology = TopologyId.debate)) ∧
    ∀ (compiler : Compiler) (id : String) (topology : Topology),
      compiler.registry.find? id = some topology → topology.exampleAgents ≠ [] →
      ∃ compilation, compiler.buildFromTemplate id = .ok compilation ∧
        (topology.isDebate = true ↔ compilation.team.inferredTopology = TopologyId.debate) := by
  refine ⟨?_, fun _ => isDebate_iff_card, ?_, ?_, ?_⟩
  · intro team agents same
    exact Team.inferredTopology_perm same
  · intro agents more within
    exact isDebate_of_subperm within.subperm
  · intro topology team kind agents
    exact topology.isDebate_iff kind agents
  · intro compiler id topology found roles
    exact Compiler.buildFromTemplate_debate found roles

/-- A critic who is also the judge makes no debate alone, and makes one with a second judge, on
either side of whom an observer may sit down. The debate of the library is built as one. -/
theorem inference_ignores_order_of_two_parts :
    let both : Agent := { name := "critic_judge" }
    let judge : Agent := { name := "judge" }
    let observer : Agent := { name := "observer" }
    let team : Team := { driverKind := .centralizedSelection, agents := [both, judge] }
    isDebate [both] = false ∧ isDebate team.agents = true ∧
      isDebate [both, observer, judge] = true ∧
      Team.inferredTopology { team with agents := [judge, both] } = TopologyId.debate ∧
      ∃ topology compilation, Compiler.bundled.registry.find? TopologyId.debate = some topology ∧
        Compiler.bundled.buildFromTemplate TopologyId.debate = .ok compilation ∧
        topology.isDebate = true ∧ compilation.team.inferredTopology = TopologyId.debate ∧
        (topology.blank (topology.exampleAgents.map Role.toAgent)).inferredTopology =
          TopologyId.debate := by
  intro both judge observer team
  obtain ⟨permuted, counted, joined, agrees, built⟩ := inference_ignores_order
  have alone : isDebate [both] = false := by
    apply Bool.eq_false_of_not_eq_true
    rw [counted]
    decide +kernel
  have debate : isDebate team.agents = true := (counted _).mpr (by decide +kernel)
  have listed : (Compiler.bundled.registry.find? TopologyId.debate).map
      (fun topology => (topology.isDebate, topology.exampleAgents.isEmpty)) =
        some (true, false) := by decide +kernel
  obtain ⟨topology, found, view⟩ := Option.map_eq_some_iff.mp listed
  obtain ⟨argued, given⟩ := Prod.mk.inj view
  obtain ⟨compilation, answered, inferred⟩ :=
    built Compiler.bundled TopologyId.debate topology found (by simpa using given)
  have within : team.agents.Sublist [both, observer, judge] := .cons_cons _ (.cons _ (.refl _))
  refine ⟨alone, debate, joined _ _ within debate, ?_, topology, compilation, found, answered,
    argued, inferred.mp argued, (agrees topology _ rfl rfl).mp argued⟩
  rw [permuted team _ (.swap both judge [])]
  exact Team.inferredTopology_eq_debate_iff.mpr ⟨rfl, debate⟩

end AgentTeams
