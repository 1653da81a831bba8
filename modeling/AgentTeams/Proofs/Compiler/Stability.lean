import AgentTeams.Proofs.Compiler.Steering
import AgentTeams.Proofs.Compiler.Switching
import AgentTeams.Proofs.Compiler.Warnings

/-! Stability: a compiled team is what its topology makes of it. To compile it for that topology
again takes the notes off and writes the same ones, finds all that would have to be filled in and
has nothing to warn of. -/
namespace AgentTeams

variable (options : Options) (team : Team)

theorem Options.selectorModel_selectorModel (own : Option ModelBinding) :
    options.selectorModel (some (options.selectorModel own)) = options.selectorModel own := by
  unfold selectorModel
  split <;> rfl

namespace Topology

variable (topology : Topology)

theorem settle_self :
    topology.settle options (topology.settle options team) = topology.settle options team := by
  have model : topology.selecting
      (options.selectorModel (topology.settle options team).teamModelBinding) =
        (topology.settle options team).teamModelBinding := by
    by_cases selected : topology.driverKind = .centralizedSelection
    · simp only [settle, selecting, if_pos selected, options.selectorModel_selectorModel]
    · simp only [settle, selecting, if_neg selected]
  rw [settle_settle, model]

theorem convert_settle_warnings (given : team.agents ≠ [])
    (accepted : AcceptedNames team.agentNames) :
    (topology.convert options (topology.settle options team)).warnings = [] := by
  have sound := topology.settle_sound options given accepted
  have prompted : topology.promptWarnings (topology.settle options team) = [] := by
    refine if_neg fun ⟨selected, _, unprompted⟩ => ?_
    have prompt := (topology.settle_selecting options team selected).prompt
    simp [prompt] at unprompted
  have modelled : topology.selectorWarnings (topology.settle options team) = [] := by
    refine if_neg fun ⟨selected, unmodelled⟩ => ?_
    have model := sound.selector selected
    rw [Option.isNone_iff_eq_none.mp unmodelled] at model
    contradiction
  have bound : (topology.settle options team).unboundAgents = [] :=
    Team.unboundAgents_eq_nil_iff.mpr sound.bound
  have ruled : (topology.settle options team).terminationRule.isNone = false := rfl
  simp [convert_warnings, prompted, modelled, bound, ruled]

theorem convert_settle (given : team.agents ≠ []) (accepted : AcceptedNames team.agentNames) :
    topology.convert options (topology.settle options team) =
      ⟨topology.settle options team, []⟩ := by
  have same : (topology.convert options (topology.settle options team)).team =
      topology.settle options team := by
    rw [convert_team, settle_self]
  have silent := topology.convert_settle_warnings options team given accepted
  cases converted : topology.convert options (topology.settle options team) with
  | mk again warnings =>
    rw [converted] at same silent
    rw [← same, ← silent]

end Topology

namespace Compiler

variable {compiler : Compiler} {id : String} {compilation : Compilation}

/-- The answer to any request is settled for its topology. -/
theorem Settles.retrofit (settles : compiler.Settles id compilation) :
    compiler.retrofit compilation.team id = .ok ⟨compilation.team, []⟩ := by
  obtain ⟨topology, source, found, given, accepted, settled⟩ := settles
  rw [settled]
  refine (retrofit_eq_ok_iff (topology.settle_agents_ne_nil compiler.options given)).mpr
    ⟨topology, found, ?_, topology.convert_settle compiler.options source given accepted⟩
  rw [Topology.settle_agentNames]
  exact accepted

/-- A team that a retrofit leaves as it is stays so through any number of them. -/
theorem retrofitAll_replicate {team : Team} {warnings : List Warning}
    (fixed : compiler.retrofit team id = .ok ⟨team, warnings⟩) (times : Nat) :
    compiler.retrofitAll team (List.replicate times id) = .ok team := by
  induction times with
  | zero => rfl
  | succ times ih => rw [List.replicate_succ, retrofitAll_cons fixed, ih]

/-- Whatever a compiler is asked for, the team that it returns is a fixed point: any number of
retrofits to the same topology leaves it as it is, and none has anything to warn of. -/
theorem answer_fixed {request : Request}
    (answered : compiler.answer id request = .ok compilation) (times : Nat) :
    compiler.retrofitAll compilation.team (List.replicate times id) = .ok compilation.team ∧
      compiler.retrofit compilation.team id = .ok ⟨compilation.team, []⟩ := by
  have fixed := (answer_settles answered).retrofit
  exact ⟨retrofitAll_replicate fixed times, fixed⟩

/-- A planner comes with a note for somebody who is not there. It is given one for the writer, and
keeps this one. -/
theorem answer_fixed_of_stale_note :
    let request := Request.agents [
      { name := "planner", instructions := HandoffNote.append ["nobody"] "Plan."
        handoffTargets := some ["nobody"] },
      { name := "writer" }]
    ∃ compilation, bundled.answer TopologyId.handoff request = .ok compilation ∧
      bundled.retrofitAll compilation.team (List.replicate 3 TopologyId.handoff) =
        .ok compilation.team ∧
      bundled.retrofit compilation.team TopologyId.handoff = .ok ⟨compilation.team, []⟩ := by
  intro request
  have succeeded : (bundled.answer TopologyId.handoff request).isOk = true := by decide +kernel
  obtain ⟨compilation, answered⟩ := exists_ok_of_isOk succeeded
  exact ⟨compilation, answered, answer_fixed answered 3⟩

end Compiler

end AgentTeams
