import AgentTeams.Compiler
import AgentTeams.Proofs.Handoff.Note

/-! Settlement: the team that a topology makes of a team, each field by itself. The compiler's
passes over a team come to exactly this, and a team settled twice keeps nothing of the topology
in between. -/
namespace AgentTeams

namespace Agent

/-- An agent without the note that a team of this kind gave it. -/
def noteOff (kind : DriverKind) (agent : Agent) : Agent :=
  if kind = .peerHandoff then agent.withoutNote else agent

/-- An agent apart from every driver, if it comes from a team of this kind. -/
def own (kind : DriverKind) (agent : Agent) : Agent :=
  { agent.noteOff kind with handoffTargets := none }

/-- An agent with a model, its own if it has one. -/
def bound (options : Options) (agent : Agent) : Agent :=
  { agent with modelBinding := some (agent.modelBinding.getD options.defaultModel) }

@[simp] theorem noteOff_name (kind : DriverKind) (agent : Agent) :
    (agent.noteOff kind).name = agent.name := by
  unfold noteOff withoutNote
  split
  · split <;> rfl
  · rfl

@[simp] theorem own_name (kind : DriverKind) (agent : Agent) :
    (agent.own kind).name = agent.name := noteOff_name kind agent

@[simp] theorem own_modelBinding (kind : DriverKind) (agent : Agent) :
    (agent.own kind).modelBinding = agent.modelBinding := by
  unfold own noteOff withoutNote
  split
  · split <;> rfl
  · rfl

theorem own_of_untargeted {agent : Agent} (untargeted : agent.handoffTargets = none)
    (kind : DriverKind) : agent.own kind = agent := by
  have same : agent.noteOff kind = agent := by
    unfold noteOff withoutNote
    split
    · simp [untargeted]
    · rfl
  unfold own
  rw [same, ← untargeted]

@[simp] theorem bound_name (options : Options) (agent : Agent) :
    (agent.bound options).name = agent.name := rfl

@[simp] theorem bound_bound (options : Options) (agent : Agent) :
    (agent.bound options).bound options = agent.bound options := rfl

end Agent

namespace Team

def ownAgents (team : Team) : List Agent :=
  team.agents.map (Agent.own team.driverKind)

@[simp] theorem ownAgents_names (team : Team) : team.ownAgents.map (·.name) = team.agentNames := by
  simp [ownAgents, agentNames, Function.comp_def]

theorem name_mem_of_ownAgents {team : Team} {own : Agent} (member : own ∈ team.ownAgents) :
    own.name ∈ team.agentNames := by
  rw [← ownAgents_names]
  exact List.mem_map.mpr ⟨own, member, rfl⟩

theorem untargeted_of_ownAgents {team : Team} {own : Agent} (member : own ∈ team.ownAgents) :
    own.handoffTargets = none := by
  obtain ⟨agent, _, rfl⟩ := List.mem_map.mp member
  rfl

theorem ownAgents_eq (team : Team) :
    (team.agents.map (Agent.noteOff team.driverKind)).map
      (fun agent => { agent with handoffTargets := none }) = team.ownAgents := by
  rw [List.map_map]
  rfl

theorem withoutNotes_eq (team : Team) : team.withoutNotes =
    { team with agents := team.agents.map (Agent.noteOff team.driverKind) } := by
  unfold withoutNotes
  split
  · rename_i handoff
    simp [Agent.noteOff, handoff]
  · rename_i other
    have same : Agent.noteOff team.driverKind = id := by
      funext agent
      simp [Agent.noteOff, other]
    simp [same]

end Team

/-- The model of a selector: the team's own only if it is to be preserved. -/
def Options.selectorModel (options : Options) (own : Option ModelBinding) : ModelBinding :=
  if options.preserveModelBinding then own.getD options.defaultModel else options.defaultModel

namespace Topology

/-- What only a team has in which a model selects the speakers. -/
def selecting (topology : Topology) (value : α) : Option α :=
  if topology.driverKind = .centralizedSelection then some value else none

/-- The agent's part among agents of these names: under peer handoff its targets and its note. -/
def seat (topology : Topology) (names : List String) (agent : Agent) : Agent :=
  if topology.driverKind = .peerHandoff then
    agent.handingOff ((HandoffGraph.complete names).targets agent.name)
  else agent

/-- The rule for teams that have none. -/
def rule (topology : Topology) (options : Options) : TerminationRule :=
  topology.required.termination.getD options.defaultTermination

/-- The team that a topology makes of a team. -/
def settle (topology : Topology) (options : Options) (team : Team) : Team where
  driverKind := topology.driverKind
  topologyId := some topology.id
  label := team.label
  description := team.description
  agents := team.ownAgents.map fun agent => topology.seat team.agentNames (agent.bound options)
  teamModelBinding := topology.selecting (options.selectorModel team.teamModelBinding)
  coordinationPrompt := topology.selecting (topology.prompt team.ownAgents)
  allowRepeatedSpeaker :=
    topology.selecting (topology.required.allowRepeatedSpeaker.getD false)
  terminationRule := some (team.terminationRule.getD (topology.rule options))

end Topology

namespace Compilation

@[simp] theorem team_warn (compilation : Compilation) (warning : Warning) :
    (compilation.warn warning).team = compilation.team := rfl

theorem team_bindTeam (options : Options) (compilation : Compilation) :
    (compilation.bindTeam options).team = { compilation.team with
      teamModelBinding := some (options.selectorModel compilation.team.teamModelBinding) } := by
  unfold bindTeam Options.selectorModel
  cases compilation.team.teamModelBinding with
  | none => simp
  | some own => rfl

theorem team_bindAgents (options : Options) (compilation : Compilation) :
    (compilation.bindAgents options).team = { compilation.team with
      agents := compilation.team.agents.map (Agent.bound options) } := rfl

theorem team_ensureTermination (rule : TerminationRule) (compilation : Compilation) :
    (compilation.ensureTermination rule).team = { compilation.team with
      terminationRule := some (compilation.team.terminationRule.getD rule) } := by
  obtain ⟨team, warnings⟩ := compilation
  cases team with
  | mk _ _ _ _ _ _ _ _ given => cases given <;> rfl

end Compilation

namespace Topology

variable (topology : Topology) (options : Options) (team : Team)

theorem seat_of_ne (other : topology.driverKind ≠ .peerHandoff) (names : List String)
    (agent : Agent) : topology.seat names agent = agent := if_neg other

theorem map_seat_of_ne (other : topology.driverKind ≠ .peerHandoff) (names : List String)
    (agents : List Agent) : agents.map (topology.seat names) = agents := by
  have same : topology.seat names = fun agent => agent :=
    funext (topology.seat_of_ne other names)
  rw [same, List.map_id']

/-- Under peer handoff it makes no difference whether agents still have their old targets. -/
theorem map_seat_ownAgents (handoff : topology.driverKind = .peerHandoff) :
    team.ownAgents.map (topology.seat team.agentNames) =
      (team.agents.map (Agent.noteOff team.driverKind)).map fun agent =>
        agent.handingOff ((HandoffGraph.complete team.agentNames).targets agent.name) := by
  rw [← Team.ownAgents_eq, List.map_map]
  apply List.map_congr_left
  intro agent _
  simp [seat, handoff, Agent.handingOff]

/-- Steering settles all but what may have to be filled in. -/
theorem steer_team : (topology.steer options team).team = { topology.settle options team with
    agents := team.ownAgents.map (topology.seat team.agentNames)
    terminationRule := team.terminationRule } := by
  have names :
      (team.agents.map (Agent.noteOff team.driverKind)).map (·.name) = team.agentNames := by
    simp [Team.agentNames, Function.comp_def]
  unfold steer settle
  rw [Team.withoutNotes_eq]
  cases kind : topology.driverKind with
  | centralizedSelection =>
    rw [topology.map_seat_of_ne (by simp [kind])]
    simp only [Compilation.team_bindTeam, Compilation.start, Team.withoutHandoffs,
      Team.ownAgents_eq, selecting, kind, if_true]
  | peerHandoff =>
    rw [topology.map_seat_ownAgents team kind]
    simp only [Compilation.start, Team.withoutSelection, Team.withHandoffs, Team.agentNames, names,
      selecting, kind, reduceCtorEq, if_false]
  | fixedOrder =>
    rw [topology.map_seat_of_ne (by simp [kind])]
    simp only [Compilation.start, Team.withoutSelection, Team.withoutHandoffs,
      Team.ownAgents_eq, selecting, kind, reduceCtorEq, if_false]
  | hierarchical =>
    rw [topology.map_seat_of_ne (by simp [kind])]
    simp only [Compilation.start, Team.withoutSelection, Team.withoutHandoffs,
      Team.ownAgents_eq, selecting, kind, reduceCtorEq, if_false]

theorem seat_bound (names : List String) (agent : Agent) :
    (topology.seat names agent).bound options = topology.seat names (agent.bound options) := by
  unfold seat
  split <;> rfl

/-- The compiler's passes over a team come to its settlement. -/
theorem applyTo_team : (topology.applyTo options team).team = topology.settle options team := by
  unfold applyTo
  rw [Compilation.team_ensureTermination, Compilation.team_bindAgents, steer_team]
  simp only [settle, rule, List.map_map, Function.comp_def, seat_bound]

@[simp] theorem seat_name (names : List String) (agent : Agent) :
    (topology.seat names agent).name = agent.name := by
  unfold seat
  split <;> rfl

@[simp] theorem seat_description (names : List String) (agent : Agent) :
    (topology.seat names agent).description = agent.description := by
  unfold seat
  split <;> rfl

@[simp] theorem seat_modelBinding (names : List String) (agent : Agent) :
    (topology.seat names agent).modelBinding = agent.modelBinding := by
  unfold seat
  split <;> rfl

@[simp] theorem settle_agentNames :
    (topology.settle options team).agentNames = team.agentNames := by
  simp [settle, Team.agentNames, Team.ownAgents, Function.comp_def]

theorem settle_agents_ne_nil {team : Team} (given : team.agents ≠ []) :
    (topology.settle options team).agents ≠ [] := by
  simpa [settle, Team.ownAgents] using given

/-- What an agent gets in a topology is what it loses when it leaves. -/
theorem own_seat (names : List String) (agent : Agent) :
    (topology.seat names agent).own topology.driverKind =
      { agent with handoffTargets := none } := by
  unfold Agent.own Agent.noteOff seat
  split
  · rename_i handoff
    simp
  · rfl

theorem ownAgents_settle :
    (topology.settle options team).ownAgents = team.ownAgents.map (Agent.bound options) := by
  simp only [Team.ownAgents, settle, List.map_map]
  apply List.map_congr_left
  intro agent _
  exact topology.own_seat team.agentNames _

/-- A prompt is made of names and descriptions alone. -/
theorem prompt_map (agents : List Agent) (change : Agent → Agent)
    (name : ∀ agent, (change agent).name = agent.name)
    (description : ∀ agent, (change agent).description = agent.description) :
    topology.prompt (agents.map change) = topology.prompt agents := by
  have entry : ∀ agent, Prompt.listEntry (change agent) = Prompt.listEntry agent := by
    intro agent
    simp [Prompt.listEntry, name, description]
  simp [prompt, Prompt.fill, Prompt.agentList, Prompt.agentNames, Function.comp_def, name, entry]

/-- A team that is settled twice keeps of the first topology at most its rule and, if its own
model is to be preserved, the one it got there. -/
theorem settle_settle (first second : Topology) :
    second.settle options (first.settle options team) = { second.settle options team with
      teamModelBinding := second.selecting
        (options.selectorModel (first.settle options team).teamModelBinding)
      terminationRule := (first.settle options team).terminationRule } := by
  have label : (first.settle options team).label = team.label := rfl
  have description : (first.settle options team).description = team.description := rfl
  have agents := first.ownAgents_settle options team
  have names := first.settle_agentNames options team
  have given : (first.settle options team).terminationRule =
      some (team.terminationRule.getD (first.rule options)) := rfl
  have prompt : second.prompt (team.ownAgents.map (Agent.bound options)) =
      second.prompt team.ownAgents := second.prompt_map _ _ (fun _ => rfl) (fun _ => rfl)
  generalize first.settle options team = settled at *
  simp [settle, label, description, agents, names, given, prompt, Function.comp_def]

end Topology

end AgentTeams
