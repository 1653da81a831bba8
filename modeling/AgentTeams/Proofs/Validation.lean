import AgentTeams.Proofs.Handoff.Declarations
import AgentTeams.Proofs.Names
import Mathlib.Data.List.Sort

/-! Validation: what a team has that gives no errors and no warnings, and what exactly the errors of
any other team are. -/
namespace AgentTeams

namespace Team

theorem unboundAgents_eq_nil_iff {team : Team} :
    team.unboundAgents = [] ↔ ∀ agent ∈ team.agents, agent.modelBinding.isSome := by
  simp [unboundAgents, List.filter_eq_nil_iff, Option.isSome_iff_ne_none]

/-- A team that can be run. -/
structure Sound (team : Team) : Prop where
  agents : team.agents ≠ []
  names : AcceptedNames team.agentNames
  bound : ∀ agent ∈ team.agents, agent.modelBinding.isSome
  selector : team.driverKind = .centralizedSelection → team.teamModelBinding.isSome
  handoffs : ∀ agent ∈ team.agents, ∀ target ∈ agent.handoffTargets.getD [],
    target ∈ team.agentNames ∧ target ≠ agent.name

/-- Validation finds no error exactly in sound teams. -/
theorem errors_validate_eq_nil_iff {team : Team} : team.validate.errors = [] ↔ team.Sound := by
  have selector :
      (team.driverKind = .centralizedSelection && team.teamModelBinding.isNone) = false ↔
        (team.driverKind = .centralizedSelection → team.teamModelBinding.isSome) := by
    cases team.teamModelBinding <;> simp
  have nonempty : team.agents.isEmpty = false ↔ team.agents ≠ [] := by simp
  simp only [validate, List.append_eq_nil_iff, when_eq_nil_iff, List.cons_ne_self,
    List.map_eq_nil_iff, nameIssues_eq_nil_iff, unboundAgents_eq_nil_iff,
    handoffIssues_eq_nil_iff, imp_false, Bool.not_eq_true, selector, nonempty]
  constructor
  · rintro ⟨⟨⟨⟨agents, names⟩, bound⟩, selector⟩, handoffs⟩
    exact ⟨agents, names, bound, selector, handoffs⟩
  · rintro ⟨agents, names, bound, selector, handoffs⟩
    exact ⟨⟨⟨⟨agents, names⟩, bound⟩, selector⟩, handoffs⟩

theorem warnings_validate_eq_nil_iff {team : Team} : team.validate.warnings = [] ↔
    (team.driverKind = .centralizedSelection → team.coordinationPrompt.isSome) ∧
      team.terminationRule.isSome := by
  simp only [validate, List.append_eq_nil_iff, when_eq_nil_iff, reduceCtorEq, imp_false]
  cases team.coordinationPrompt <;> cases team.terminationRule <;> simp

end Team

/-- What there is to say of the agents of a team, apart from their being there. -/
@[ext] structure Diagnosis where
  reserved : Option String
  repeated : Option String
  unbound : List String
  unknown : List (String × String)
  looping : List String

namespace Diagnosis

/-- A diagnosis is that of a team: the first name that is reserved and the first that repeats an
earlier one, each agent without a model, each transfer to nobody as often as it is declared, and
each name once that an agent of this name declares for itself, in the order of the names. -/
structure Of (diagnosis : Diagnosis) (team : Team) : Prop where
  reserved : FirstWrong (fun _ name => name ∈ NodeId.reserved) team.agentNames diagnosis.reserved
  repeated : FirstWrong (fun before name => name ∈ before) team.agentNames diagnosis.repeated
  unbound : diagnosis.unbound = (team.agents.filter (·.modelBinding.isNone)).map (·.name)
  unknown : diagnosis.unknown = team.agents.flatMap fun agent =>
    ((agent.handoffTargets.getD []).filter (· ∉ team.agentNames)).map fun target =>
      (agent.name, target)
  looping : ∀ name, name ∈ diagnosis.looping ↔
    ∃ agent ∈ team.agents, agent.name = name ∧ name ∈ agent.handoffTargets.getD []
  ordered : diagnosis.looping.Pairwise fun one other =>
    team.agentNames.idxOf one < team.agentNames.idxOf other

/-- The errors that a diagnosis comes to, and those of the team as a whole between them. -/
def issues (diagnosis : Diagnosis) (team : Team) : List Issue :=
  (if team.agents = [] then [.noAgents] else []) ++
  diagnosis.reserved.toList.map .reservedAgentName ++
  diagnosis.repeated.toList.map .duplicateAgent ++
  diagnosis.unbound.map .missingAgentModel ++
  (if team.driverKind = .centralizedSelection ∧ team.teamModelBinding = none then
    [.missingTeamModel] else []) ++
  diagnosis.unknown.map (fun (agent, target) => .unknownHandoffTarget agent target) ++
  diagnosis.looping.map .selfHandoff

theorem Of.unique {diagnosis other : Diagnosis} {team : Team} (one : diagnosis.Of team)
    (two : other.Of team) : diagnosis = other := by
  have : Std.Irrefl fun one other : String =>
      team.agentNames.idxOf one < team.agentNames.idxOf other := ⟨fun _ => Nat.lt_irrefl _⟩
  have : Std.Antisymm fun one other : String =>
      team.agentNames.idxOf one < team.agentNames.idxOf other :=
    ⟨fun _ _ less greater => (Nat.lt_asymm less greater).elim⟩
  have looping : diagnosis.looping = other.looping :=
    one.ordered.eq_of_mem_iff two.ordered fun name =>
      (one.looping name).trans (two.looping name).symm
  exact Diagnosis.ext (one.reserved.unique two.reserved) (one.repeated.unique two.repeated)
    (one.unbound.trans two.unbound.symm) (one.unknown.trans two.unknown.symm) looping

end Diagnosis

namespace Team

/-- The diagnosis that validation makes. -/
def diagnosis (team : Team) : Diagnosis where
  reserved := team.reservedName?
  repeated := team.repeatedName?
  unbound := team.unboundAgents
  unknown := HandoffGraph.dangling team
  looping := (HandoffGraph.ofTeam team).selfLoops

theorem diagnosis_of (team : Team) : team.diagnosis.Of team where
  reserved := firstReserved?_firstWrong team.agentNames
  repeated := firstRepeated?_firstWrong team.agentNames
  unbound := rfl
  unknown := HandoffGraph.dangling_eq_flatMap team
  looping := fun _ => HandoffGraph.mem_selfLoops_ofTeam
  ordered := HandoffGraph.selfLoops_ofTeam_ordered team

theorem errors_validate (team : Team) : team.validate.errors = team.diagnosis.issues team := by
  simp [validate, Diagnosis.issues, diagnosis, nameIssues, handoffIssues, when_eq_ite,
    Option.toList_map]

/-- The errors of validation are those of the diagnosis of the team, in a fixed order, and there are
none exactly in sound teams. -/
theorem validate_exact (team : Team) :
    (∀ errors, team.validate.errors = errors ↔
      ∃ diagnosis : Diagnosis, diagnosis.Of team ∧ diagnosis.issues team = errors) ∧
    (team.validate.valid = true ↔ team.Sound) := by
  refine ⟨?_, ?_⟩
  · intro errors
    rw [errors_validate]
    constructor
    · intro same
      exact ⟨team.diagnosis, team.diagnosis_of, same⟩
    · rintro ⟨other, diagnosed, rfl⟩
      rw [diagnosed.unique team.diagnosis_of]
  · rw [← errors_validate_eq_nil_iff, Report.valid, List.isEmpty_iff]

/-- Two agents of one name: a target that is nobody is told as often as it is declared, a name that
both declare for themselves once. -/
example : Team.validate {
      driverKind := .peerHandoff
      agents := [
        { name := "writer", handoffTargets := some ["editor", "writer", "editor"] },
        { name := "hub", modelBinding := some ⟨"local", "small"⟩ },
        { name := "writer", handoffTargets := some ["writer", "hub"] }] } =
    { errors := [.reservedAgentName "hub", .duplicateAgent "writer", .missingAgentModel "writer",
        .missingAgentModel "writer", .unknownHandoffTarget "writer" "editor",
        .unknownHandoffTarget "writer" "editor", .selfHandoff "writer"]
      warnings := [.missingTermination] } := by
  decide +kernel

end Team

end AgentTeams
