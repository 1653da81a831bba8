import AgentTeams.Proofs.Compiler.Soundness

/-! Refusals: when the compiler has no team to return, and with which error. A team whose names
cannot stand together is refused for a name that validation reports as well. -/
namespace AgentTeams

/-- What validation reports of a name at fault. -/
def Issue.ofNameFault : NameFault → Issue
  | .reserved name => .reservedAgentName name
  | .repeated name => .duplicateAgent name

namespace Team

variable {team : Team} {fault : NameFault}

/-- Of all that validation looks at only the names can be at fault as names. -/
theorem nameFault_mem_errors_iff :
    Issue.ofNameFault fault ∈ team.validate.errors ↔ Issue.ofNameFault fault ∈ team.nameIssues := by
  cases fault <;> simp [validate, Issue.ofNameFault, handoffIssues]

theorem nameFault_mem_nameIssues_iff : Issue.ofNameFault fault ∈ team.nameIssues ↔
    match fault with
    | .reserved name => firstReserved? team.agentNames = some name
    | .repeated name => firstRepeated? [] team.agentNames = some name := by
  cases fault <;>
    simp [nameIssues, Issue.ofNameFault, reservedName?, repeatedName?, Option.mem_toList]

theorem reported_of_firstFault (first : FirstFault team.agentNames fault) :
    Issue.ofNameFault fault ∈ team.validate.errors := by
  rw [nameFault_mem_errors_iff, nameFault_mem_nameIssues_iff]
  cases fault with
  | reserved name => exact firstReserved?_of_firstFault first
  | repeated name => exact firstRepeated?_of_firstFault first

theorem exists_reported_iff : (∃ fault, Issue.ofNameFault fault ∈ team.validate.errors) ↔
    ∃ fault, FirstFault team.agentNames fault := by
  constructor
  · rintro ⟨fault, reported⟩
    have issues : team.nameIssues ≠ [] :=
      List.ne_nil_of_mem (nameFault_mem_errors_iff.mp reported)
    have scanned : nameFault? [] team.agentNames ≠ none := by
      intro none
      exact issues (nameIssues_eq_nil_iff.mpr ((nameFault?_eq_none_iff [] _).mp none).1)
    obtain ⟨first, found⟩ := Option.ne_none_iff_exists'.mp scanned
    exact ⟨first, nameFault?_eq_some_iff.mp found⟩
  · rintro ⟨fault, first⟩
    exact ⟨fault, reported_of_firstFault first⟩

end Team

/-- The agents that a request brings. Without any, the example agents of the topology are wanted. -/
def Request.roster : Request → List Agent
  | .compile existing => (existing.map (·.agents)).getD []
  | .template => []
  | .agents given => given
  | .retrofit existing => existing.agents

namespace Compiler

/-- Why a compiler refuses a request that brings these agents. -/
inductive Refused (compiler : Compiler) (id : String) (roster : List Agent) :
    CompileError → Prop where
  | unknown (unknown : id ∉ compiler.registry.ids) :
      Refused compiler id roster (.unknownTopology id)
  | untemplated {topology : Topology} (found : compiler.registry.find? id = some topology)
      (empty : roster = []) (roleless : topology.exampleAgents = []) :
      Refused compiler id roster (.missingTemplate id)
  | misnamed {fault : NameFault} (registered : id ∈ compiler.registry.ids)
      (first : FirstFault (roster.map (·.name)) fault) :
      Refused compiler id roster (.ofNameFault fault)

variable {compiler : Compiler} {id : String} {roster : List Agent} {error : CompileError}
  {topology : Topology}

theorem refused_of_unknown (unknown : id ∉ compiler.registry.ids) :
    compiler.Refused id roster error ↔ error = .unknownTopology id := by
  constructor
  · intro refused
    cases refused with
    | unknown => rfl
    | untemplated found => exact absurd (Registry.mem_ids_of_find? found) unknown
    | misnamed registered => exact absurd registered unknown
  · rintro rfl
    exact .unknown unknown

theorem refused_of_empty (found : compiler.registry.find? id = some topology) :
    compiler.Refused id [] error ↔ topology.exampleAgents = [] ∧ error = .missingTemplate id := by
  constructor
  · intro refused
    cases refused with
    | unknown unknown => exact absurd (Registry.mem_ids_of_find? found) unknown
    | untemplated known _ roleless =>
      obtain rfl := Option.some.inj (found.symm.trans known)
      exact ⟨roleless, rfl⟩
    | misnamed _ first => exact absurd acceptedNames_nil first.not_accepted
  · rintro ⟨roleless, rfl⟩
    exact .untemplated found rfl roleless

theorem refused_of_given (given : roster ≠ []) (registered : id ∈ compiler.registry.ids) :
    compiler.Refused id roster error ↔
      ∃ fault, FirstFault (roster.map (·.name)) fault ∧ error = .ofNameFault fault := by
  constructor
  · intro refused
    cases refused with
    | unknown unknown => exact absurd registered unknown
    | untemplated _ empty => exact absurd empty given
    | misnamed _ first => exact ⟨_, first, rfl⟩
  · rintro ⟨fault, first, rfl⟩
    exact .misnamed registered first

theorem buildFromTemplate_eq_error_iff :
    compiler.buildFromTemplate id = .error error ↔ compiler.Refused id [] error := by
  unfold buildFromTemplate Compiler.topology
  cases found : compiler.registry.find? id with
  | none =>
    rw [refused_of_unknown (Registry.find?_eq_none_iff_not_mem.mp found)]
    simp [bind, Except.bind, eq_comm]
  | some topology =>
    rw [refused_of_empty found]
    cases roles : topology.exampleAgents with
    | nil => simp [bind, Except.bind, roles, throw, throwThe, MonadExceptOf.throw, eq_comm]
    | cons role rest => simp [bind, Except.bind, roles, pure, Except.pure]

/-- Whatever is made of the topology, given agents are refused for their names alone. -/
theorem checked_eq_error_iff (given : roster ≠ []) (make : Topology → Compilation) :
    (do
      let topology ← compiler.topology id
      checkAgentNames roster
      return make topology) = Except.error error ↔ compiler.Refused id roster error := by
  unfold Compiler.topology
  cases found : compiler.registry.find? id with
  | none =>
    rw [refused_of_unknown (Registry.find?_eq_none_iff_not_mem.mp found)]
    simp [bind, Except.bind, eq_comm]
  | some topology =>
    rw [refused_of_given given (Registry.mem_ids_of_find? found), ← checkAgentNames_eq_error_iff]
    cases checkAgentNames roster with
    | error error => simp [bind, Except.bind]
    | ok accepted => simp [bind, Except.bind, pure, Except.pure]

theorem retrofit_eq_error_iff {existing : Team} :
    compiler.retrofit existing id = .error error ↔ compiler.Refused id existing.agents error := by
  by_cases given : existing.agents = []
  · rw [retrofit_empty given, buildFromTemplate_eq_error_iff, given]
  · rw [retrofit_given given, checked_eq_error_iff given]

theorem buildWithAgents_eq_error_iff :
    compiler.buildWithAgents id roster = .error error ↔ compiler.Refused id roster error := by
  by_cases given : roster = []
  · subst given
    exact buildFromTemplate_eq_error_iff
  · rw [← checked_eq_error_iff given fun topology => topology.build compiler.options roster]
    simp [buildWithAgents, given]

/-- By whichever entry point a compiler is asked, it is the agents that decide whether it refuses
and why. -/
theorem answer_eq_error_iff {request : Request} :
    compiler.answer id request = .error error ↔ compiler.Refused id request.roster error := by
  cases request with
  | compile existing =>
    cases existing with
    | none => exact buildFromTemplate_eq_error_iff
    | some existing => exact retrofit_eq_error_iff
  | template => exact buildFromTemplate_eq_error_iff
  | agents given => exact buildWithAgents_eq_error_iff
  | retrofit existing => exact retrofit_eq_error_iff

/-- An answer for a team fails for an unknown topology exactly if there is none of this id.
Otherwise it fails with a name exactly if validation reports one of the team: with the first that
cannot stand behind those before it, which is one of the reported. -/
structure Agrees (compiler : Compiler) (id : String) (team : Team)
    (answer : Except CompileError Compilation) : Prop where
  unknown : ∀ other, answer = .error (.unknownTopology other) ↔
    other = id ∧ id ∉ compiler.registry.ids
  refused : id ∈ compiler.registry.ids → ((∃ fault, answer = .error (.ofNameFault fault)) ↔
    ∃ fault, Issue.ofNameFault fault ∈ team.validate.errors)
  reported : ∀ fault, answer = .error (.ofNameFault fault) →
    Issue.ofNameFault fault ∈ team.validate.errors ∧ FirstFault team.agentNames fault
  accepted : id ∈ compiler.registry.ids →
    (∀ fault, Issue.ofNameFault fault ∉ team.validate.errors) →
    ∃ compilation, answer = .ok compilation

/-- An error for a name is for one fault, and no other error is for a name. -/
theorem refused_misnamed_iff {fault : NameFault} :
    compiler.Refused id roster (.ofNameFault fault) ↔
      id ∈ compiler.registry.ids ∧ FirstFault (roster.map (·.name)) fault := by
  constructor
  · intro refused
    generalize same : CompileError.ofNameFault fault = error at refused
    cases refused with
    | unknown => cases fault <;> simp [CompileError.ofNameFault] at same
    | untemplated => cases fault <;> simp [CompileError.ofNameFault] at same
    | @misnamed other registered first =>
      have equal : fault = other := by
        cases fault <;> cases other <;> simp_all [CompileError.ofNameFault]
      exact ⟨registered, equal ▸ first⟩
  · rintro ⟨registered, first⟩
    exact .misnamed registered first

theorem refused_unknown_iff {other : String} :
    compiler.Refused id roster (.unknownTopology other) ↔
      other = id ∧ id ∉ compiler.registry.ids := by
  constructor
  · intro refused
    generalize same : CompileError.unknownTopology other = error at refused
    cases refused with
    | unknown unknown => exact ⟨CompileError.unknownTopology.inj same, unknown⟩
    | untemplated => simp at same
    | @misnamed fault => cases fault <;> simp [CompileError.ofNameFault] at same
  · rintro ⟨rfl, unknown⟩
    exact .unknown unknown

/-- An answer that is refused for the agents of a team agrees with validation of the team. -/
theorem agrees_of_refused {team : Team} {answer : Except CompileError Compilation}
    (given : team.agents ≠ [])
    (failed : ∀ error, answer = .error error ↔ compiler.Refused id team.agents error) :
    compiler.Agrees id team answer where
  unknown other := (failed _).trans refused_unknown_iff
  refused registered := by
    rw [Team.exists_reported_iff]
    simp only [failed, refused_misnamed_iff, registered, true_and]
    rfl
  reported fault error := by
    obtain ⟨_, first⟩ := refused_misnamed_iff.mp ((failed _).mp error)
    exact ⟨Team.reported_of_firstFault first, first⟩
  accepted registered silent := by
    cases answer with
    | ok compilation => exact ⟨compilation, rfl⟩
    | error error =>
      obtain ⟨fault, first, _⟩ := (refused_of_given given registered).mp ((failed error).mp rfl)
      exact absurd (Team.reported_of_firstFault first) (silent fault)

/-- A compiler accepts the same teams as validation does, as far as names go, and tells of the
first name that it does not accept. It does not matter by which entry point the agents come, and
without agents only the topology can be at fault. -/
theorem answer_agrees_with_validation (compiler : Compiler) (id : String) :
    (∀ team request, team.agents ≠ [] → request.roster = team.agents →
      compiler.Agrees id team (compiler.answer id request)) ∧
    (∀ one other : Request, one.roster = other.roster → ∀ error,
      compiler.answer id one = .error error ↔ compiler.answer id other = .error error) ∧
    ∀ request : Request, request.roster = [] → ∀ error, compiler.answer id request = .error error ↔
      (id ∉ compiler.registry.ids ∧ error = .unknownTopology id) ∨
        ∃ topology, compiler.registry.find? id = some topology ∧ topology.exampleAgents = [] ∧
          error = .missingTemplate id := by
  refine ⟨?_, ?_, ?_⟩
  · intro team request given brought
    refine agrees_of_refused given fun error => ?_
    rw [answer_eq_error_iff, brought]
  · intro one other same error
    rw [answer_eq_error_iff, answer_eq_error_iff, same]
  · intro request nobody error
    rw [answer_eq_error_iff, nobody]
    cases found : compiler.registry.find? id with
    | none =>
      have unknown := Registry.find?_eq_none_iff_not_mem.mp found
      simp [refused_of_unknown unknown, unknown]
    | some topology =>
      simp [refused_of_empty found, Registry.mem_ids_of_find? found]

/-- A repeated name in front of a reserved one decides the error; validation reports both. -/
theorem answer_agrees_with_validation_of_both :
    let team : Team := {
      driverKind := .fixedOrder
      agents := [{ name := "writer" }, { name := "writer" }, { name := "user" }] }
    bundled.answer TopologyId.selector (.retrofit team) = .error (.duplicateAgent "writer") ∧
      .duplicateAgent "writer" ∈ team.validate.errors ∧
      .reservedAgentName "user" ∈ team.validate.errors ∧
      bundled.answer "nowhere" .template = .error (.unknownTopology "nowhere") := by
  intro team
  have registered : TopologyId.selector ∈ bundled.registry.ids := by decide +kernel
  have unknown : "nowhere" ∉ bundled.registry.ids := by decide +kernel
  have reserved : Issue.reservedAgentName "user" ∈ team.validate.errors := by decide +kernel
  obtain ⟨agrees, _, _⟩ := answer_agrees_with_validation bundled TopologyId.selector
  obtain ⟨_, _, empty⟩ := answer_agrees_with_validation bundled "nowhere"
  have agreed := agrees team (.retrofit team) (List.cons_ne_nil _ _) rfl
  obtain ⟨fault, failed⟩ := (agreed.refused registered).mpr ⟨.reserved "user", reserved⟩
  obtain ⟨reported, first⟩ := agreed.reported fault failed
  have split : team.agentNames = ["writer"] ++ "writer" :: ["user"] := rfl
  have accepted : AcceptedNames ["writer"] := ⟨by decide +kernel, by decide +kernel⟩
  obtain rfl := first.unique (.repeated split accepted (by decide +kernel) (by simp))
  exact ⟨failed, reported, reserved, (empty .template rfl _).mpr (.inl ⟨unknown, rfl⟩)⟩

end Compiler

end AgentTeams
