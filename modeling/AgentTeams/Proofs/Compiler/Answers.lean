import AgentTeams.Bundled
import AgentTeams.Proofs.Compiler.Settlement
import AgentTeams.Proofs.Names

/-! Answers: when each entry point of the compiler answers, and with what. Every answer is the
settlement of a team that has agents, all of them with accepted names. -/
namespace AgentTeams

theorem Registry.id_of_find? {registry : Registry} {id : String}
    (found : registry.find? id = some topology) :
    topology.id = id :=
  (Registry.find?_eq_some_iff.mp found).2

theorem Registry.find?_of_mem_ids {registry : Registry} {id : String}
    (registered : id ∈ registry.ids) :
    ∃ topology, registry.find? id = some topology := by
  obtain ⟨topology, member, same⟩ := List.mem_map.mp registered
  exact ⟨topology, Registry.find?_eq_some_iff.mpr ⟨member, same⟩⟩

theorem Registry.mem_ids_of_find? {registry : Registry} {id : String}
    (found : registry.find? id = some topology) : id ∈ registry.ids := by
  obtain ⟨member, rfl⟩ := Registry.find?_eq_some_iff.mp found
  exact List.mem_map.mpr ⟨topology, member, rfl⟩

theorem Registry.find?_eq_none_iff_not_mem {registry : Registry} {id : String} :
    registry.find? id = none ↔ id ∉ registry.ids := by
  constructor
  · intro none registered
    obtain ⟨topology, found⟩ := Registry.find?_of_mem_ids registered
    simp [none] at found
  · intro unknown
    simp [find?, index_get?_eq_none_iff.mpr unknown]

namespace Topology

/-- The team that a fresh build settles. -/
def blank (topology : Topology) (agents : List Agent) : Team where
  driverKind := topology.driverKind
  agents
  label := some topology.name
  description := some topology.description

theorem build_eq (topology : Topology) (options : Options) (agents : List Agent) :
    topology.build options agents = ⟨topology.settle options (topology.blank agents), []⟩ := by
  rw [← applyTo_team]
  rfl

theorem convert_team (topology : Topology) (options : Options) (team : Team) :
    (topology.convert options team).team = topology.settle options team :=
  topology.applyTo_team options team

end Topology

theorem exists_ok_of_isOk {answer : Except ε α} (succeeded : answer.isOk = true) :
    ∃ value, answer = .ok value := by
  cases answer with
  | error error => simp [Except.isOk, Except.toBool] at succeeded
  | ok value => exact ⟨value, rfl⟩

theorem exists_ok_of_view {answer : Except ε α} {view : α → β} {seen : β}
    (known : answer.toOption.map view = some seen) :
    ∃ value, answer = .ok value ∧ view value = seen := by
  cases answer with
  | error error => simp [Except.toOption] at known
  | ok value => exact ⟨value, rfl, Option.some.inj known⟩

namespace Compiler

/-- A compiler for the topologies that come with the library. -/
def bundled : Compiler where
  registry := Registry.bundled.toOption.getD Registry.empty

variable {compiler : Compiler} {id : String} {compilation : Compilation}

theorem buildFromTemplate_eq_ok_iff : compiler.buildFromTemplate id = .ok compilation ↔
    ∃ topology, compiler.registry.find? id = some topology ∧ topology.exampleAgents ≠ [] ∧
      topology.build compiler.options (topology.exampleAgents.map Role.toAgent) = compilation := by
  unfold buildFromTemplate topology
  cases found : compiler.registry.find? id with
  | none => simp [bind, Except.bind]
  | some topology =>
    cases roles : topology.exampleAgents with
    | nil => simp [bind, Except.bind, roles, throw, throwThe, MonadExceptOf.throw]
    | cons role rest => simp [bind, Except.bind, roles, pure, Except.pure]

theorem buildWithAgents_eq_ok_iff {agents : List Agent} (given : agents ≠ []) :
    compiler.buildWithAgents id agents = .ok compilation ↔
      ∃ topology, compiler.registry.find? id = some topology ∧
        AcceptedNames (agents.map (·.name)) ∧
        topology.build compiler.options agents = compilation := by
  have nonempty : agents.isEmpty = false := by simpa using given
  unfold buildWithAgents topology
  rw [← checkAgentNames_eq_ok_iff, nonempty]
  cases compiler.registry.find? id with
  | none => simp [bind, Except.bind]
  | some topology =>
    cases checkAgentNames agents with
    | error error => simp [bind, Except.bind]
    | ok accepted => simp [bind, Except.bind, pure, Except.pure]

theorem retrofit_empty {existing : Team} (empty : existing.agents = []) :
    compiler.retrofit existing id = compiler.buildFromTemplate id := by
  simp [retrofit, empty]

theorem retrofit_given {existing : Team} (given : existing.agents ≠ []) :
    compiler.retrofit existing id = (do
      let topology ← compiler.topology id
      checkAgentNames existing.agents
      return topology.convert compiler.options existing) := by
  simp [retrofit, given]

theorem retrofit_eq_ok_iff {existing : Team} (given : existing.agents ≠ []) :
    compiler.retrofit existing id = .ok compilation ↔
      ∃ topology, compiler.registry.find? id = some topology ∧
        AcceptedNames existing.agentNames ∧
        topology.convert compiler.options existing = compilation := by
  unfold Team.agentNames
  rw [retrofit_given given, ← checkAgentNames_eq_ok_iff]
  unfold topology
  cases compiler.registry.find? id with
  | none => simp [bind, Except.bind]
  | some topology =>
    cases checkAgentNames existing.agents with
    | error error => simp [bind, Except.bind]
    | ok accepted => simp [bind, Except.bind, pure, Except.pure]

/-- An answer of a compiler for the topology of an id: its team is settled from one that has
agents, all of them with accepted names. -/
def Settles (compiler : Compiler) (id : String) (compilation : Compilation) : Prop :=
  ∃ topology source, compiler.registry.find? id = some topology ∧ source.agents ≠ [] ∧
    AcceptedNames source.agentNames ∧ compilation.team = topology.settle compiler.options source

theorem buildFromTemplate_settles (answered : compiler.buildFromTemplate id = .ok compilation) :
    compiler.Settles id compilation := by
  obtain ⟨topology, found, roles, rfl⟩ := buildFromTemplate_eq_ok_iff.mp answered
  refine ⟨topology, topology.blank (topology.exampleAgents.map Role.toAgent), found, ?_,
    topology.exampleNames_accepted, by rw [Topology.build_eq]⟩
  simpa [Topology.blank] using roles

theorem buildWithAgents_settles {agents : List Agent}
    (answered : compiler.buildWithAgents id agents = .ok compilation) :
    compiler.Settles id compilation := by
  by_cases given : agents = []
  · subst agents
    exact buildFromTemplate_settles answered
  · obtain ⟨topology, found, accepted, rfl⟩ := (buildWithAgents_eq_ok_iff given).mp answered
    exact ⟨topology, topology.blank agents, found, given, accepted, by rw [Topology.build_eq]⟩

theorem retrofit_settles {existing : Team}
    (answered : compiler.retrofit existing id = .ok compilation) :
    compiler.Settles id compilation := by
  by_cases given : existing.agents = []
  · rw [retrofit_empty given] at answered
    exact buildFromTemplate_settles answered
  · obtain ⟨topology, found, accepted, rfl⟩ := (retrofit_eq_ok_iff given).mp answered
    exact ⟨topology, existing, found, given, accepted,
      topology.convert_team compiler.options existing⟩

theorem compile_settles {existing : Option Team}
    (answered : compiler.compile existing id = .ok compilation) :
    compiler.Settles id compilation := by
  cases existing with
  | none => exact buildFromTemplate_settles answered
  | some team => exact retrofit_settles answered

end Compiler

end AgentTeams
