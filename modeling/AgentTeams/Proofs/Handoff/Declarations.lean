import AgentTeams.Proofs.Handoff.Graph
import AgentTeams.Validation

/-! Declarations: what becomes of the handoffs that the agents of a team declare, and when
validation has nothing to say of them. -/
namespace AgentTeams

namespace HandoffGraph

theorem mem_declared {team : Team} : (source, target) ∈ declared team ↔
    ∃ agent ∈ team.agents, agent.name = source ∧ target ∈ agent.handoffTargets.getD [] := by
  simp only [declared, List.mem_flatMap, List.mem_map, Prod.mk.injEq]
  constructor
  · rintro ⟨agent, member, declaredTarget, listed, name, rfl⟩
    exact ⟨agent, member, name, listed⟩
  · rintro ⟨agent, member, name, listed⟩
    exact ⟨agent, member, target, listed, name, rfl⟩

/-- The declared transfers `taken` so far have all come to something. -/
structure Reading.Of {agents : List String} (reading : Reading agents)
    (taken : List (String × String)) : Prop where
  drawn : reading.transfers.map (fun transfer => (agents[transfer.1], agents[transfer.2])) =
    taken.filter (·.2 ∈ agents)
  dangling : reading.dangling = taken.filter (·.2 ∉ agents)

theorem Reading.of_nil (agents : List String) : ({} : Reading agents).Of [] := ⟨rfl, rfl⟩

/-- The source of a declared transfer is an agent; it depends on the target what becomes of it. -/
theorem Reading.Of.take {agents : List String} {reading : Reading agents}
    {taken : List (String × String)} (read : reading.Of taken) {source target : String}
    (known : source ∈ agents) :
    (reading.take (source, target)).Of (taken ++ [(source, target)]) := by
  cases found : agents.finIdxOf? source with
  | none => exact absurd known (List.finIdxOf?_eq_none_iff.mp found)
  | some number =>
    cases reached : agents.finIdxOf? target with
    | none =>
      have stranger := List.finIdxOf?_eq_none_iff.mp reached
      have aside : reading.take (source, target) =
          { reading with dangling := reading.dangling ++ [(source, target)] } := by
        simp [Reading.take, found, reached]
      rw [aside]
      constructor
      · rw [read.drawn, List.filter_append]
        simp [stranger]
      · rw [read.dangling, List.filter_append]
        simp [stranger]
    | some other =>
      have named : agents[number] = source := (List.finIdxOf?_eq_some_iff.mp found).1
      have same : agents[other] = target := (List.finIdxOf?_eq_some_iff.mp reached).1
      have member : target ∈ agents := same ▸ List.getElem_mem _
      have added : reading.take (source, target) =
          { reading with transfers := reading.transfers ++ [(number, other)] } := by
        simp [Reading.take, found, reached]
      rw [added]
      constructor
      · rw [List.map_append, read.drawn, List.filter_append, List.map_singleton, named, same]
        simp [member]
      · rw [read.dangling, List.filter_append]
        simp [member]

theorem Reading.Of.foldl {agents : List String} {reading : Reading agents}
    {taken : List (String × String)} (read : reading.Of taken) {more : List (String × String)}
    (known : ∀ transfer ∈ more, transfer.1 ∈ agents) :
    (more.foldl Reading.take reading).Of (taken ++ more) := by
  induction more generalizing reading taken with
  | nil => simpa using read
  | cons transfer rest ih =>
    obtain ⟨here, later⟩ := List.forall_mem_cons.mp known
    simpa using ih (read.take here) later

theorem read_of (team : Team) : (read team).Of (declared team) := by
  refine (Reading.of_nil _).foldl ?_
  rintro ⟨source, target⟩ member
  obtain ⟨agent, present, rfl, _⟩ := mem_declared.mp member
  exact mem_distinctNames.mpr (List.mem_map_of_mem present)

theorem namedTransfers_ofTeam (team : Team) : (ofTeam team).namedTransfers =
    (declared team).filter (·.2 ∈ team.agentNames) := by
  have drawn := (read_of team).drawn
  simp only [mem_distinctNames] at drawn
  exact drawn

theorem dangling_eq (team : Team) :
    dangling team = (declared team).filter (·.2 ∉ team.agentNames) := by
  have aside := (read_of team).dangling
  simp only [mem_distinctNames] at aside
  exact aside

theorem dangling_eq_flatMap (team : Team) : dangling team = team.agents.flatMap fun agent =>
    ((agent.handoffTargets.getD []).filter (· ∉ team.agentNames)).map fun target =>
      (agent.name, target) := by
  simp only [dangling_eq, declared, List.filter_flatMap, List.filter_map]
  rfl

theorem dangling_eq_nil_iff {team : Team} : dangling team = [] ↔
    ∀ agent ∈ team.agents, ∀ target ∈ agent.handoffTargets.getD [], target ∈ team.agentNames := by
  simp [dangling_eq_flatMap, List.filter_eq_nil_iff]

theorem mem_namedTransfers_ofTeam {team : Team} :
    (source, target) ∈ (ofTeam team).namedTransfers ↔ target ∈ team.agentNames ∧
      ∃ agent ∈ team.agents, agent.name = source ∧ target ∈ agent.handoffTargets.getD [] := by
  rw [namedTransfers_ofTeam, List.mem_filter, mem_declared, decide_eq_true_eq, and_comm]

theorem mem_selfLoops_ofTeam {team : Team} : name ∈ (ofTeam team).selfLoops ↔
    ∃ agent ∈ team.agents, agent.name = name ∧ name ∈ agent.handoffTargets.getD [] := by
  rw [mem_selfLoops, mem_namedTransfers_ofTeam]
  refine and_iff_right_of_imp ?_
  rintro ⟨agent, member, rfl, _⟩
  exact List.mem_map_of_mem member

theorem ofTeam_ordered {team : Team} {names : List String}
    (chosen : names.Sublist (ofTeam team).agents) :
    names.Pairwise fun one other => team.agentNames.idxOf one < team.agentNames.idxOf other :=
  (distinctNames_ordered team.agentNames).sublist chosen

theorem selfLoops_ofTeam_ordered (team : Team) : (ofTeam team).selfLoops.Pairwise
    fun one other => team.agentNames.idxOf one < team.agentNames.idxOf other :=
  ofTeam_ordered List.filter_sublist

theorem selfLoops_ofTeam_eq_nil_iff {team : Team} : (ofTeam team).selfLoops = [] ↔
    ∀ agent ∈ team.agents, agent.name ∉ agent.handoffTargets.getD [] := by
  simp only [List.eq_nil_iff_forall_not_mem, mem_selfLoops_ofTeam]
  constructor
  · intro none agent member listed
    exact none agent.name ⟨agent, member, rfl, listed⟩
  · rintro none name ⟨agent, member, rfl, listed⟩
    exact none agent member listed

/-- A graph, and transfers set aside, account for all that the agents of a team declare. -/
structure Accounts (graph : HandoffGraph) (aside : List (String × String)) (team : Team) :
    Prop where
  total : graph.transfers.length + aside.length =
    (team.agents.flatMap fun agent => agent.handoffTargets.getD []).length
  drawn : graph.namedTransfers = team.agents.flatMap fun agent =>
    ((agent.handoffTargets.getD []).filter (· ∈ team.agentNames)).map fun target =>
      (agent.name, target)
  dangling : aside = team.agents.flatMap fun agent =>
    ((agent.handoffTargets.getD []).filter (· ∉ team.agentNames)).map fun target =>
      (agent.name, target)
  reached : ∀ name target, target ∈ graph.targets name ↔ target ∈ team.agentNames ∧
    ∃ agent ∈ team.agents, agent.name = name ∧ target ∈ agent.handoffTargets.getD []
  distinct : ∀ name, (graph.targets name).Nodup
  ordered : ∀ name, (graph.targets name).Pairwise fun one other =>
    team.agentNames.idxOf one < team.agentNames.idxOf other
  nobody : ∀ name, name ∉ team.agentNames → graph.targets name = []
  looping : ∀ name, name ∈ graph.selfLoops ↔
    ∃ agent ∈ team.agents, agent.name = name ∧ name ∈ agent.handoffTargets.getD []
  loopsOrdered : graph.selfLoops.Pairwise fun one other =>
    team.agentNames.idxOf one < team.agentNames.idxOf other

/-- Each declared transfer is drawn or set aside. -/
theorem length_transfers_add_dangling (team : Team) :
    (ofTeam team).transfers.length + (dangling team).length = (declared team).length := by
  have drawn : (ofTeam team).transfers.length = (ofTeam team).namedTransfers.length :=
    (List.length_map _).symm
  rw [drawn, namedTransfers_ofTeam, dangling_eq,
    (declared team).length_eq_length_filter_add (·.2 ∈ team.agentNames)]
  simp only [decide_not]

theorem length_declared (team : Team) : (declared team).length =
    (team.agents.flatMap fun agent => agent.handoffTargets.getD []).length := by
  simp [declared, List.length_flatMap]

theorem targets_ofTeam_of_stranger {team : Team} (stranger : name ∉ team.agentNames) :
    (ofTeam team).targets name = [] := by
  refine List.eq_nil_iff_forall_not_mem.mpr fun target reached => stranger ?_
  obtain ⟨_, agent, member, rfl, _⟩ := mem_namedTransfers_ofTeam.mp (mem_targets.mp reached)
  exact List.mem_map_of_mem member

/-- Every team's declarations are accounted for, whatever names its agents have and whatever
targets they declare. -/
theorem ofTeam_accounts (team : Team) : (ofTeam team).Accounts (dangling team) team where
  total := (length_transfers_add_dangling team).trans (length_declared team)
  drawn := by
    rw [namedTransfers_ofTeam]
    simp only [declared, List.filter_flatMap, List.filter_map]
    rfl
  dangling := dangling_eq_flatMap team
  reached _ _ := mem_targets.trans mem_namedTransfers_ofTeam
  distinct := (ofTeam team).targets_nodup
  ordered name := ofTeam_ordered ((ofTeam team).targets_sublist name)
  nobody _ := targets_ofTeam_of_stranger
  looping _ := mem_selfLoops_ofTeam
  loopsOrdered := selfLoops_ofTeam_ordered team

/-- Two agents share the name `a`. What both declare is listed once and counted each time. -/
example :
    let team : Team := {
      driverKind := .peerHandoff
      agents := [
        { name := "a", handoffTargets := some ["b", "ghost", "b"] },
        { name := "b", handoffTargets := some ["b", "ghost"] },
        { name := "a", handoffTargets := some ["ghost", "b", "a"] }] }
    (ofTeam team).targets "a" = ["a", "b"] ∧ (ofTeam team).selfLoops = ["a", "b"] ∧
      (ofTeam team).transfers.length = 5 ∧
      dangling team = [("a", "ghost"), ("b", "ghost"), ("a", "ghost")] := by cbv

end HandoffGraph

/-- Nothing is said of handoffs whose targets are agents of the team other than their source. -/
theorem Team.handoffIssues_eq_nil_iff {team : Team} : team.handoffIssues = [] ↔
    ∀ agent ∈ team.agents, ∀ target ∈ agent.handoffTargets.getD [],
      target ∈ team.agentNames ∧ target ≠ agent.name := by
  simp only [handoffIssues, List.append_eq_nil_iff, List.map_eq_nil_iff,
    HandoffGraph.dangling_eq_nil_iff, HandoffGraph.selfLoops_ofTeam_eq_nil_iff]
  constructor
  · rintro ⟨known, apart⟩ agent member target listed
    refine ⟨known agent member target listed, ?_⟩
    rintro rfl
    exact apart agent member listed
  · intro proper
    refine ⟨fun agent member target listed => (proper agent member target listed).1, ?_⟩
    intro agent member listed
    exact (proper agent member agent.name listed).2 rfl

end AgentTeams
