import AgentTeams.Proofs.Compiler.Steering
import AgentTeams.Proofs.Handoff.Declarations
import Mathlib.Data.Finset.Card

/-! Complete handoff graphs: each name may hand off to all others. A team that was compiled for peer
handoff declares this graph of its agents, so the graph is what is read back from it. -/
namespace AgentTeams

namespace HandoffGraph

theorem distinctNames_eq_eraseDups (names : List String) :
    distinctNames names = names.eraseDups := by
  have single (name : String) : [name].eraseDups = [name] := by simp [List.eraseDups_cons]
  induction names using List.reverseRecOn with
  | nil => rfl
  | append_singleton names name ih =>
    rw [distinctNames_concat, List.eraseDups_append, ih]
    by_cases known : name ∈ names <;> simp [List.removeAll, known, single]

theorem length_distinctNames (names : List String) :
    (distinctNames names).length = names.toFinset.card := by
  rw [← List.toFinset_card_of_nodup (nodup_distinctNames names)]
  congr 1
  ext name
  simp

/-- A graph is known from its agents and from the names at the ends of its transfers. -/
theorem eq_of_namedTransfers {one other : HandoffGraph} (agents : one.agents = other.agents)
    (transfers : one.namedTransfers = other.namedTransfers) : one = other := by
  obtain ⟨names, distinct, drawn⟩ := one
  obtain ⟨_, _, drawnToo⟩ := other
  obtain rfl : names = _ := agents
  have injective : Function.Injective fun transfer : Fin names.length × Fin names.length =>
      (names[transfer.1], names[transfer.2]) := by
    rintro ⟨source, target⟩ ⟨source', target'⟩ same
    obtain ⟨sources, targets⟩ := Prod.mk.inj same
    exact Prod.ext (Fin.ext (distinct.getElem_inj_iff.mp sources))
      (Fin.ext (distinct.getElem_inj_iff.mp targets))
  obtain rfl : drawn = drawnToo := List.map_injective_iff.mpr injective transfers
  rfl

/-- The transfers of a complete graph lead from each agent to each other, sources and targets in the
order of the agents. -/
theorem namedTransfers_complete (names : List String) : (complete names).namedTransfers =
    (distinctNames names).flatMap fun source =>
      ((distinctNames names).filter (· ≠ source)).map fun target => (source, target) := by
  have distinct := nodup_distinctNames names
  have numbered : (List.finRange (distinctNames names).length).map (distinctNames names).get =
      distinctNames names := List.map_get_finRange _
  have others (source : Fin (distinctNames names).length) :
      ((List.finRange _).filter (· ≠ source)).map (distinctNames names).get =
        (distinctNames names).filter (· ≠ (distinctNames names).get source) := by
    have named : ((List.finRange _).filter (· ≠ source)).map (distinctNames names).get =
        ((List.finRange _).map (distinctNames names).get).filter
          (· ≠ (distinctNames names).get source) := by
      rw [List.filter_map]
      congr 1
      apply List.filter_congr
      intro target _
      simp [distinct.getElem_inj_iff, Fin.ext_iff]
    rw [named, numbered]
  calc (complete names).namedTransfers
    _ = (List.finRange (distinctNames names).length).flatMap fun source =>
        (((List.finRange _).filter (· ≠ source)).map (distinctNames names).get).map fun target =>
          ((distinctNames names).get source, target) := by
      simp [namedTransfers, complete, List.map_flatMap, Function.comp_def]
    _ = ((List.finRange _).map (distinctNames names).get).flatMap fun source =>
        ((distinctNames names).filter (· ≠ source)).map fun target => (source, target) := by
      simp only [others, List.flatMap_map]
    _ = _ := by rw [numbered]

theorem length_transfers_complete (names : List String) : (complete names).transfers.length =
    names.toFinset.card * (names.toFinset.card - 1) := by
  have drawn : (complete names).transfers.length = (complete names).namedTransfers.length :=
    (List.length_map _).symm
  have others : ∀ source ∈ distinctNames names,
      ((distinctNames names).filter (· ≠ source)).length = (distinctNames names).length - 1 := by
    intro source member
    rw [← List.length_erase_of_mem member, (nodup_distinctNames names).erase_eq_filter]
    simp [bne, beq_eq_decide]
  rw [drawn, namedTransfers_complete, List.length_flatMap, ← length_distinctNames]
  simp only [List.length_map, List.map_congr_left others, List.map_const', List.sum_replicate_nat]

theorem selfLoops_complete (names : List String) : (complete names).selfLoops = [] := by
  refine List.eq_nil_iff_forall_not_mem.mpr fun name looping => ?_
  exact (mem_complete_namedTransfers.mp (mem_selfLoops.mp looping)).2.2 rfl

theorem targets_complete_of_stranger {names : List String} (stranger : name ∉ names) :
    (complete names).targets name = [] := by
  refine List.eq_nil_iff_forall_not_mem.mpr fun target reached => ?_
  exact stranger (mem_targets_complete.mp reached).1

/-- A graph links all of some names with each other: each name to all others, none to itself and
nobody else to anybody. -/
structure LinksAll (graph : HandoffGraph) (names : List String) : Prop where
  count : graph.transfers.length = names.toFinset.card * (names.toFinset.card - 1)
  loopless : graph.selfLoops = []
  others : ∀ name ∈ names, graph.targets name = names.eraseDups.filter (· ≠ name)
  nobody : ∀ name, name ∉ names → graph.targets name = []

theorem linksAll_complete (names : List String) : (complete names).LinksAll names where
  count := length_transfers_complete names
  loopless := selfLoops_complete names
  others name member := by
    rw [targets_complete_of_mem member, distinctNames_eq_eraseDups]
  nobody _ := targets_complete_of_stranger

/-- Every agent of a team declares all others. -/
def Interlinked (team : Team) : Prop :=
  ∀ agent ∈ team.agents, agent.handoffTargets = some (team.agentNames.filter (· ≠ agent.name))

variable {team : Team}

theorem Interlinked.declared (interlinked : Interlinked team) : declared team =
    team.agentNames.flatMap fun source =>
      (team.agentNames.filter (· ≠ source)).map fun target => (source, target) := by
  rw [HandoffGraph.declared, Team.agentNames, List.flatMap_map]
  apply List.flatMap_congr
  intro agent member
  rw [interlinked agent member]
  rfl

theorem Interlinked.dangling (interlinked : Interlinked team) : dangling team = [] := by
  rw [dangling_eq_nil_iff]
  intro agent member target listed
  rw [interlinked agent member] at listed
  exact (List.mem_filter.mp listed).1

theorem Interlinked.ofTeam (interlinked : Interlinked team) (distinct : team.agentNames.Nodup) :
    ofTeam team = complete team.agentNames := by
  refine eq_of_namedTransfers rfl ?_
  have known : (HandoffGraph.declared team).filter (·.2 ∈ team.agentNames) =
      HandoffGraph.declared team := by
    rw [List.filter_eq_self]
    rintro ⟨source, target⟩ member
    rw [interlinked.declared] at member
    simp at member
    simp [member]
  rw [namedTransfers_ofTeam, known, interlinked.declared, namedTransfers_complete,
    distinctNames_of_nodup distinct]

end HandoffGraph

namespace Compiler

open HandoffGraph

variable {compiler : Compiler} {id : String} {request : Request} {compilation : Compilation}

/-- Under peer handoff a compiler returns teams whose agents declare all others, by whichever entry
point the team was asked for. -/
theorem answer_interlinked {topology : Topology}
    (answered : compiler.answer id request = .ok compilation)
    (found : compiler.registry.find? id = some topology)
    (handoff : topology.driverKind = .peerHandoff) :
    Interlinked compilation.team ∧ compilation.team.agentNames.Nodup := by
  obtain ⟨other, source, known, _, accepted, settled⟩ := answer_settles answered
  obtain rfl := Option.some.inj (known.symm.trans found)
  rw [settled]
  refine ⟨other.settle_targeted compiler.options source handoff accepted, ?_⟩
  rw [other.settle_agentNames]
  exact accepted.distinct

/-- The complete graph links all names with each other, whatever names repeat. A team compiled for
peer handoff is read back as this graph: nothing dangles, and each agent's targets are those that
are stored and those that the complete graph over the names has. -/
theorem handoffs_read_back :
    (∀ names, (complete names).LinksAll names) ∧
    ∀ (compiler : Compiler) id request compilation topology,
      compiler.answer id request = .ok compilation → compiler.registry.find? id = some topology →
      topology.driverKind = .peerHandoff →
      dangling compilation.team = [] ∧
        (ofTeam compilation.team).LinksAll compilation.team.agentNames ∧
        ∀ agent ∈ compilation.team.agents,
          agent.handoffTargets = some ((ofTeam compilation.team).targets agent.name) ∧
          (ofTeam compilation.team).targets agent.name =
            (complete compilation.team.agentNames).targets agent.name := by
  refine ⟨linksAll_complete, ?_⟩
  intro compiler id request compilation topology answered found handoff
  obtain ⟨interlinked, distinct⟩ := answer_interlinked answered found handoff
  rw [interlinked.ofTeam distinct]
  refine ⟨interlinked.dangling, linksAll_complete _, ?_⟩
  intro agent member
  have named : agent.name ∈ compilation.team.agentNames := List.mem_map_of_mem member
  rw [targets_complete distinct named]
  exact ⟨interlinked agent member, rfl⟩

/-- A declaration that led nowhere is gone after the build, and three agents have six transfers. -/
theorem handoffs_read_back_of_trio :
    let agents : List Agent := [
      { name := "planner" }, { name := "writer", handoffTargets := some ["nobody"] },
      { name := "critic" }]
    (complete ["b", "a", "b"]).targets "a" = ["b"] ∧
    ∃ compilation, bundled.answer TopologyId.handoff (.agents agents) = .ok compilation ∧
      dangling compilation.team = [] ∧ (ofTeam compilation.team).transfers.length = 6 ∧
      (ofTeam compilation.team).targets "writer" = ["planner", "critic"] := by
  intro agents
  have names : ((bundled.answer TopologyId.handoff (.agents agents)).toOption.map
      fun compilation => compilation.team.agentNames) = some ["planner", "writer", "critic"] := by
    decide +kernel
  have kind : (bundled.registry.find? TopologyId.handoff).map (·.driverKind) =
      some .peerHandoff := by decide +kernel
  obtain ⟨compilation, answered, named⟩ := exists_ok_of_view names
  obtain ⟨topology, found, handoff⟩ := Option.map_eq_some_iff.mp kind
  obtain ⟨linked, compiled⟩ := handoffs_read_back
  obtain ⟨settled, whole, _⟩ :=
    compiled bundled _ (.agents agents) compilation topology answered found handoff
  rw [named] at whole
  refine ⟨(linked ["b", "a", "b"]).others "a" (by decide), compilation, answered, settled, ?_, ?_⟩
  · exact whole.count
  · exact whole.others "writer" (by decide)

end Compiler

end AgentTeams
