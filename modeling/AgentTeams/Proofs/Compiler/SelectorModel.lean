import AgentTeams.Proofs.Compiler.Agents
import AgentTeams.Proofs.Compiler.Warnings
import Mathlib.Data.List.Induction

/-! The selector's model: what a run of retrofits leaves of it, and where it is missed. Only under
a selector does a team have one, so that a run keeps the team's own model as long as it meets no
other driver, and the next selector after such a driver finds none. -/
namespace AgentTeams

/-- A model selects the speakers in the topology of this id. -/
def Registry.Selects (registry : Registry) (id : String) : Prop :=
  ∃ topology, registry.find? id = some topology ∧ topology.driverKind = .centralizedSelection

theorem Registry.selects_iff {registry : Registry} {id : String} {topology : Topology}
    (found : registry.find? id = some topology) :
    registry.Selects id ↔ topology.driverKind = .centralizedSelection := by
  simp [Selects, found]

instance (registry : Registry) (id : String) : Decidable (registry.Selects id) :=
  decidable_of_iff ((registry.find? id).any (·.driverKind = .centralizedSelection)) (by
    simp [Registry.Selects, Option.any_eq_true])

namespace Compiler

variable {compiler : Compiler} {team final : Team} {id : String} {ids earlier : List String}
  {own : Option ModelBinding} {compilation : Compilation}

/-- The model that a team with this one, or with none, has after the step to a topology. -/
def nextModel (compiler : Compiler) (own : Option ModelBinding) (id : String) :
    Option ModelBinding :=
  if compiler.registry.Selects id then some (compiler.options.selectorModel own) else none

theorem retrofit_teamModelBinding (given : team.agents ≠ [])
    (answered : compiler.retrofit team id = .ok compilation) :
    compilation.team.teamModelBinding = compiler.nextModel team.teamModelBinding id := by
  obtain ⟨topology, found, _, rfl⟩ := (retrofit_eq_ok_iff given).mp answered
  rw [Topology.convert_team]
  simp only [nextModel, Registry.selects_iff found]
  rfl

theorem missingTeamModel_mem_warnings_iff (given : team.agents ≠ [])
    (answered : compiler.retrofit team id = .ok compilation) :
    .missingTeamModel ∈ compilation.warnings ↔
      compiler.registry.Selects id ∧ team.teamModelBinding = none := by
  obtain ⟨topology, found, _, rfl⟩ := (retrofit_eq_ok_iff given).mp answered
  rw [Topology.convert_warnings, Registry.selects_iff found]
  simp [Topology.promptWarnings, Topology.selectorWarnings]

theorem foldl_nextModel_concat (compiler : Compiler) (own : Option ModelBinding)
    (earlier : List String) (id : String) : (earlier ++ [id]).foldl compiler.nextModel own =
      compiler.nextModel (earlier.foldl compiler.nextModel own) id := by
  rw [List.foldl_append]
  rfl

/-- There is no model where there was none and nothing has happened, and where the last driver had
no use for one. -/
theorem foldl_nextModel_eq_none_iff : ids.foldl compiler.nextModel own = none ↔
    (ids = [] ∧ own = none) ∨
      ∃ previous, ids.getLast? = some previous ∧ ¬ compiler.registry.Selects previous := by
  rcases List.eq_nil_or_concat ids with rfl | ⟨earlier, previous, rfl⟩
  · simp
  · rw [List.concat_eq_append, foldl_nextModel_concat, nextModel]
    simp

/-- A model that is to be preserved gets no further than the first driver without a selector. -/
theorem foldl_nextModel_getD (preserved : compiler.options.preserveModelBinding = true)
    (own : Option ModelBinding) (ids : List String) :
    (ids.foldl compiler.nextModel own).getD compiler.options.defaultModel =
      if ∀ id ∈ ids, compiler.registry.Selects id then own.getD compiler.options.defaultModel
      else compiler.options.defaultModel := by
  induction ids using List.reverseRecOn with
  | nil => simp
  | append_singleton earlier id ih =>
    rw [foldl_nextModel_concat, nextModel]
    by_cases selects : compiler.registry.Selects id
    · simp [selects, Options.selectorModel, preserved, ih, or_imp, forall_and]
    · simp [selects, or_imp, forall_and]

theorem selectorModel_foldl (own : Option ModelBinding) (ids : List String) :
    compiler.options.selectorModel (ids.foldl compiler.nextModel own) =
      if compiler.options.preserveModelBinding = true ∧
        ∀ id ∈ ids, compiler.registry.Selects id then own.getD compiler.options.defaultModel
      else compiler.options.defaultModel := by
  unfold Options.selectorModel
  by_cases preserved : compiler.options.preserveModelBinding = true
  · simp only [preserved, true_and, if_true, foldl_nextModel_getD preserved]
  · simp [preserved]

theorem retrofitAll_append (team : Team) (front back : List String) :
    compiler.retrofitAll team (front ++ back) = (compiler.retrofitAll team front).bind
      fun between => compiler.retrofitAll between back := by
  induction front generalizing team with
  | nil => rfl
  | cons id rest ih =>
    rw [List.cons_append, retrofitAll, retrofitAll]
    cases compiler.retrofit team id with
    | error error => rfl
    | ok compilation => exact ih compilation.team

theorem retrofitAll_agents_ne_nil (given : team.agents ≠ [])
    (walked : compiler.retrofitAll team ids = .ok final) : final.agents ≠ [] := by
  obtain ⟨change, changed, _⟩ := retrofitAll_changes_agents given walked
  simpa [changed] using given

theorem retrofitAll_teamModelBinding (given : team.agents ≠ [])
    (walked : compiler.retrofitAll team ids = .ok final) :
    final.teamModelBinding = ids.foldl compiler.nextModel team.teamModelBinding := by
  induction ids generalizing team with
  | nil =>
    cases walked
    rfl
  | cons id rest ih =>
    obtain ⟨compilation, answered, onward⟩ := Json.bind_eq_ok_iff.mp walked
    have somebody : compilation.team.agents ≠ [] :=
      retrofitAll_agents_ne_nil given (retrofitAll_cons answered [])
    rw [ih somebody onward, retrofit_teamModelBinding given answered]
    rfl

theorem retrofitAll_step {later : List String}
    (walked : compiler.retrofitAll team (earlier ++ id :: later) = .ok final) :
    ∃ before compilation, compiler.retrofitAll team earlier = .ok before ∧
      compiler.retrofit before id = .ok compilation ∧
      compiler.retrofitAll compilation.team later = .ok final := by
  rw [retrofitAll_append] at walked
  obtain ⟨before, begun, rest⟩ := Json.bind_eq_ok_iff.mp walked
  obtain ⟨compilation, answered, onward⟩ := Json.bind_eq_ok_iff.mp rest
  exact ⟨before, compilation, begun, answered, onward⟩

/-- After a run of retrofits a team has a model for the selector only if the last topology has
one. It is the team's own if that is to be preserved and all topologies have a selector, and else
the default. The model is missed at the steps to a selector from another driver, and at the first
if the team came without one. -/
theorem retrofitAll_selectorModel (steps : ids ≠ []) (given : team.agents ≠ [])
    (walked : compiler.retrofitAll team ids = .ok final) :
    (final.teamModelBinding =
      if compiler.registry.Selects (ids.getLast steps) then
        some (if compiler.options.preserveModelBinding = true ∧
            ∀ id ∈ ids, compiler.registry.Selects id then
          team.teamModelBinding.getD compiler.options.defaultModel
        else compiler.options.defaultModel)
      else none) ∧
    ∀ earlier id later, ids = earlier ++ id :: later → ∃ before compilation,
      compiler.retrofitAll team earlier = .ok before ∧
      compiler.retrofit before id = .ok compilation ∧
      compiler.retrofitAll compilation.team later = .ok final ∧
      (.missingTeamModel ∈ compilation.warnings ↔ compiler.registry.Selects id ∧
        ((earlier = [] ∧ team.teamModelBinding = none) ∨ ∃ previous,
          earlier.getLast? = some previous ∧ ¬ compiler.registry.Selects previous)) := by
  constructor
  · rw [retrofitAll_teamModelBinding given walked]
    obtain ⟨earlier, last, rfl⟩ := (List.eq_nil_or_concat ids).resolve_left steps
    simp only [List.concat_eq_append, foldl_nextModel_concat, List.getLast_append_singleton]
    rw [nextModel]
    by_cases selects : compiler.registry.Selects last
    · simp [selects, selectorModel_foldl, or_imp, forall_and]
    · simp [selects]
  · rintro earlier id later rfl
    obtain ⟨before, compilation, begun, answered, onward⟩ := retrofitAll_step walked
    refine ⟨before, compilation, begun, answered, onward, ?_⟩
    rw [missingTeamModel_mem_warnings_iff (retrofitAll_agents_ne_nil given begun) answered,
      retrofitAll_teamModelBinding given begun, foldl_nextModel_eq_none_iff]

/-- A sequence brings a model that it has no use for. Under two selectors the model is kept. On a
way that leads through a sequence again it is lost, and the next selector gets the default one. -/
theorem retrofitAll_selectorModel_of_detour :
    let compiler : Compiler := { bundled with options := { preserveModelBinding := true } }
    let team : Team := {
      driverKind := .fixedOrder
      agents := [{ name := "planner" }, { name := "writer" }]
      teamModelBinding := some ⟨"local", "small"⟩ }
    (∃ final, compiler.retrofitAll team [TopologyId.selector, TopologyId.debate] = .ok final ∧
      final.teamModelBinding = some ⟨"local", "small"⟩) ∧
    ∃ before compilation,
      compiler.retrofitAll team [TopologyId.selector, TopologyId.sequential] = .ok before ∧
      compiler.retrofit before TopologyId.selector = .ok compilation ∧
      compilation.team.teamModelBinding = some ModelBinding.default ∧
      .missingTeamModel ∈ compilation.warnings := by
  intro compiler team
  have selector : compiler.registry.Selects TopologyId.selector := by decide +kernel
  have debate : compiler.registry.Selects TopologyId.debate := by decide +kernel
  have sequential : ¬ compiler.registry.Selects TopologyId.sequential := by decide +kernel
  constructor
  · have succeeded : (compiler.retrofitAll team
        [TopologyId.selector, TopologyId.debate]).isOk = true := by decide +kernel
    obtain ⟨final, walked⟩ := exists_ok_of_isOk succeeded
    obtain ⟨model, _⟩ :=
      retrofitAll_selectorModel (List.cons_ne_nil _ _) (List.cons_ne_nil _ _) walked
    refine ⟨final, walked, ?_⟩
    rw [model]
    simp [selector, debate, compiler, team]
  · have succeeded : (compiler.retrofitAll team
        [TopologyId.selector, TopologyId.sequential, TopologyId.selector]).isOk = true := by
      decide +kernel
    obtain ⟨final, walked⟩ := exists_ok_of_isOk succeeded
    obtain ⟨model, stepwise⟩ :=
      retrofitAll_selectorModel (List.cons_ne_nil _ _) (List.cons_ne_nil _ _) walked
    obtain ⟨before, compilation, begun, answered, ended, missed⟩ :=
      stepwise [TopologyId.selector, TopologyId.sequential] TopologyId.selector [] rfl
    cases ended
    refine ⟨before, compilation, begun, answered, ?_, missed.mpr ⟨selector, .inr ⟨_, rfl, ?_⟩⟩⟩
    · rw [model]
      simp [selector, sequential, compiler]
    · exact sequential

end Compiler

end AgentTeams
